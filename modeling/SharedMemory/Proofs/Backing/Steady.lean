import SharedMemory.Proofs.Backing.DescriptorPair
import SharedMemory.Proofs.Backing.SealedFile
import SharedMemory.Proofs.Kernel.Bare
/-!
# Checks that stay as they are

The check of a backing goes by the open files of the descriptors and by the objects. So what it
confirmed of a handle it confirms again, and it confirms it of every copy of the handle, as long as
the kernel answers what it is asked and the objects are what they were.
-/
namespace SharedMemory

namespace Kernel

variable {k k' : Kernel} {d e : Descriptor}

private theorem isOpen_of_accessOf? {access : Access} (h : k.accessOf? d = some access) :
    k.IsOpen d := by
  obtain ⟨file, hfile, -⟩ := Option.bind_eq_some_iff.mp h
  exact ⟨file, hfile⟩

private theorem accessOf?_eq (hfile : k'.file? e = k.file? d) : k'.accessOf? e = k.accessOf? d := by
  rw [accessOf?, accessOf?, hfile]

theorem object_eq (hobjects : k'.objects = k.objects) (o : ObjectId) :
    k'.object o = k.object o := by
  rw [object, object, hobjects]

private theorem lengthOf?_eq (hfile : k'.file? e = k.file? d) (hobjects : k'.objects = k.objects) :
    k'.lengthOf? e = k.lengthOf? d := by
  simp only [lengthOf?, hfile, object_eq hobjects]

private theorem sealsOf?_eq (hfile : k'.file? e = k.file? d) (hobjects : k'.objects = k.objects) :
    k'.sealsOf? e = k.sealsOf? d := by
  simp only [sealsOf?, hfile, object_eq hobjects]

theorem Candid.of_refusal (hc : k.Candid) (h : k'.refusal = k.refusal) : k'.Candid := by
  refine ⟨?_, ?_, ?_⟩
  · rw [h]
    exact hc.access
  · rw [h]
    exact hc.seals
  · rw [h]
    exact hc.length

end Kernel

open Kernel Backing Effect

/-- Objects and plan stay where nothing but descriptors comes and goes. -/
theorem Effect.sameObjects_closed : Closed Operation.keepsObjects fun s s' =>
    s'.kernel.objects = s.kernel.objects ∧ s'.kernel.refusal = s.kernel.refusal where
  refl _ := ⟨rfl, rfl⟩
  trans h h' := ⟨h'.1.trans h.1, h'.2.trans h.2⟩
  perform s op hop := by
    have hbytes : op.keepsBytes = true := by
      cases op with
      | addSeals => rfl
      | _ => exact hop
    have hbare := perform_bare hbytes s.kernel
    have hextends := (sameMemory_closed.perform s hop).objects
    have hlength : s.kernel.objects.length = (op.perform s.kernel).objects.length := by
      rw [← length_bare_objects, ← length_bare_objects (op.perform s.kernel), hbare]
    have hrefusal : (op.perform s.kernel).bare.refusal = s.kernel.bare.refusal := by rw [hbare]
    exact ⟨(hextends.eq_of_length hlength).symm, hrefusal⟩
  journal _ _ := ⟨rfl, rfl⟩

/-- A backing whose check depends on nothing but the open files of the descriptors and the
objects. -/
class SteadyBacking (H : Type) [Backing H] : Prop where
  isOpen {s : System} {h : H} {mode : Mode} {size : Nat} :
    ((Backing.corresponds h mode size).run s).1 = true → ∀ d ∈ descriptors h, s.kernel.IsOpen d
  again {s s' : System} {h h' : H} {mode : Mode} {size : Nat} :
    ((Backing.corresponds h mode size).run s).1 = true → s'.kernel.Candid →
      Copies s.kernel h s'.kernel h' → s'.kernel.objects = s.kernel.objects →
        ((Backing.corresponds h' mode size).run s').1 = true

namespace SealedFile

theorem Admitted.copies {k k' : Kernel} {h h' : SealedFile} {mode : Mode} {size : Nat}
    (ha : Admitted k h mode size) (hc : Copies k h k' h') (hobjects : k'.objects = k.objects) :
    Admitted k' h' mode size := by
  have hfile : k'.file? h'.fd = k.file? h.fd := hc.mapped
  rw [Admitted, accessOf?_eq hfile, sealsOf?_eq hfile hobjects, lengthOf?_eq hfile hobjects]
  exact ha

instance : SteadyBacking SealedFile where
  isOpen {s h mode size} hcheck d hd := by
    obtain ⟨-, hadmitted, -⟩ := corresponds_yields h mode size _ s rfl
    obtain ⟨access, -, -, haccess, -⟩ := hadmitted hcheck
    obtain rfl := List.mem_singleton.mp hd
    exact isOpen_of_accessOf? haccess
  again {s s' h h' mode size} hcheck hcandid hcopies hobjects := by
    obtain ⟨-, hadmitted, -⟩ := corresponds_yields h mode size _ s rfl
    obtain ⟨-, -, hcomplete⟩ := corresponds_yields h' mode size _ s' rfl
    exact hcomplete hcandid ((hadmitted hcheck).copies hcopies hobjects)

end SealedFile

namespace DescriptorPair

variable {k k' : Kernel} {h h' : DescriptorPair} {mode : Mode} {size : Nat}

theorem SpareAdmitted.copies (ha : SpareAdmitted k h.spare mode) (hc : Copies k h k' h') :
    SpareAdmitted k' h'.spare mode := by
  have hkept : h'.spare.map k'.file? = h.spare.map k.file? := hc.kept
  cases mode with
  | writable =>
    obtain ⟨d, hspare, haccess⟩ := ha
    rw [hspare, Option.map_some, Option.map_eq_some_iff] at hkept
    obtain ⟨e, hspare', hfile⟩ := hkept
    exact ⟨e, hspare', (accessOf?_eq hfile).trans haccess⟩
  | readOnly | shared =>
    have hnone : h.spare = none := ha
    rw [hnone, Option.map_none, Option.map_eq_none_iff] at hkept
    exact hkept

theorem Admitted.copies (ha : Admitted k h mode size) (hc : Copies k h k' h')
    (hobjects : k'.objects = k.objects) : Admitted k' h' mode size := by
  have hfile : k'.file? h'.fd = k.file? h.fd := hc.mapped
  obtain ⟨haccess, hlength, hspare⟩ := ha
  refine ⟨(accessOf?_eq hfile).trans haccess, ?_, hspare.copies hc⟩
  rw [lengthOf?_eq hfile hobjects]
  exact hlength

theorem Admitted.isOpen (ha : Admitted k h mode size) :
    ∀ d ∈ Backing.descriptors h, k.IsOpen d := by
  obtain ⟨haccess, -, hspare⟩ := ha
  intro d hd
  rcases List.mem_cons.mp hd with rfl | hd
  · exact isOpen_of_accessOf? haccess
  · have hd : h.spare = some d := Option.mem_toList.mp hd
    cases mode with
    | writable =>
      obtain ⟨d', hspare, haccess'⟩ := hspare
      obtain rfl := Option.some.inj (hspare.symm.trans hd)
      exact isOpen_of_accessOf? haccess'
    | readOnly | shared =>
      have hnone : h.spare = none := hspare
      cases hnone.symm.trans hd

instance : SteadyBacking DescriptorPair where
  isOpen {s h mode size} hcheck := by
    obtain ⟨-, hadmitted, -⟩ := corresponds_yields h mode size _ s rfl
    exact (hadmitted hcheck).isOpen
  again {s s' h h' mode size} hcheck hcandid hcopies hobjects := by
    obtain ⟨-, hadmitted, -⟩ := corresponds_yields h mode size _ s rfl
    obtain ⟨-, -, hcomplete⟩ := corresponds_yields h' mode size _ s' rfl
    exact hcomplete hcandid ((hadmitted hcheck).copies hcopies hobjects)

end DescriptorPair

section Copies

variable {H : Type} [Backing H] {k k' : Kernel} {h copy : H}

theorem Backing.Copies.of_file? (hfile : ∀ d ∈ descriptors h, k'.file? d = k.file? d) :
    Copies k h k' h := by
  refine ⟨hfile _ (descriptor_mem h), ?_⟩
  cases hreserve : reserve h with
  | none => rfl
  | some d => rw [Option.map_some, Option.map_some, hfile d (reserve_mem hreserve)]

/-- A copy has the objects of its source, one for each descriptor. -/
theorem Backing.Copies.objects (hc : Copies k h k' copy) :
    (descriptors copy).map k'.objectOf? = (descriptors h).map k.objectOf? := by
  have hmapped : k'.objectOf? (descriptor copy) = k.objectOf? (descriptor h) := by
    rw [objectOf?, objectOf?, hc.mapped]
  have hkept := hc.kept
  rw [descriptors, descriptors, List.map_cons, List.map_cons, hmapped]
  cases hreserve : reserve h with
  | none =>
    rw [hreserve, Option.map_none, Option.map_eq_none_iff] at hkept
    rw [hkept]
    rfl
  | some d =>
    rw [hreserve, Option.map_some, Option.map_eq_some_iff] at hkept
    obtain ⟨e, hcopy, hfile⟩ := hkept
    rw [hcopy]
    simp only [Option.toList_some, List.map_cons, List.map_nil, objectOf?, hfile]

end Copies

end SharedMemory
