import SharedMemory.Proofs.Backing.DescriptorPair
import SharedMemory.Proofs.Backing.SealedFile
import SharedMemory.Proofs.Kernel.Unhindered
/-!
# Operations with nothing in their way

Where the kernel refuses only what it must, the operations of a backing succeed on what their own
operations have made. An allocation fails for one reason alone, a size that is no signed word, and
in either case it leaves one more object behind.
-/
namespace SharedMemory

open Kernel Effect

/-- The name of a shared memory object that an identifier stands for. -/
def objectName (g : Guid) : String := "/shr." ++ String.ofList (g.digits.take 24)

namespace System

/-- The kernel refuses only what it must, and none of the names to come is in use. -/
structure Unhindered (s : System) : Prop where
  kernel : s.kernel.Unhindered
  names (place : Nat) : s.kernel.names.lookup (objectName (s.names.draw place)) = none

def grow (s : System) (length : Nat) : System := { s with kernel := s.kernel.grow length }

end System

theorem Effect.Leads.freshName {s : System} {Q : String → System → Prop}
    (h : Q (objectName s.names.next) { s with names := s.names.advance }) :
    Effect.freshName.Leads s Q := h

namespace Backing

variable {H : Type}

/-- All descriptors of a handle are for reading. -/
def Readable [Backing H] (k : Kernel) (h : H) : Prop :=
  ∀ d ∈ descriptors h, ∃ file, k.file? d = some file ∧ file.access.canRead = true

theorem Grants.permits [Backing H] [Rights H] [LawfulBacking H] {k : Kernel} {h : H} {o : ObjectId}
    {mode : Mode} (hg : Grants k h o mode) (hreadable : Readable k h) :
    ∃ access, k.file? (descriptor h) = some ⟨o, access⟩ ∧
      k.Permits (.ofMode mode) ⟨o, access⟩ := by
  obtain ⟨access, hfile, hfit, hadmits⟩ := hg
  obtain ⟨file, hfile', hread⟩ := hreadable _ (descriptor_mem h)
  obtain rfl := Option.some.inj (hfile.symm.trans hfile')
  refine ⟨access, hfile, LawfulBacking.memory_of_fit hfit, hread, fun hwrite => ?_⟩
  have hmode : mode ≠ .readOnly := by
    rintro rfl
    cases hwrite
  exact LawfulBacking.mappable hfit hmode hadmits

/-- What an allocation comes to with nothing in its way. -/
def Allots (size : Nat) (s : System) (outcome : Except Errno H) (s' : System) : Prop :=
  if size ≤ maxPosition then (∃ h, outcome = .ok h) ∧ s'.bare = s.bare.grow size
  else outcome = .error .invalidArgument ∧ s'.bare = s.bare.grow 0

theorem Allots.of_bare {size : Nat} {h : H} {s : System} {k : Kernel} {names : Supply}
    (hfits : size ≤ maxPosition) (hbare : k.bare = s.kernel.bare.grow size)
    (hnames : names.draw = s.names.draw) :
    Allots size s (.ok h) { s with kernel := k, names } := by
  rw [Allots, if_pos hfits]
  refine ⟨⟨h, rfl⟩, ?_⟩
  simp only [System.bare, System.grow, hbare, hnames]

private theorem Allots.of_refused {size : Nat} {s : System} {k : Kernel} {names : Supply}
    (hfits : ¬ size ≤ maxPosition) (hbare : k.bare = s.kernel.bare.grow 0)
    (hnames : names.draw = s.names.draw) :
    Allots size s (.error .invalidArgument : Except Errno H) { s with kernel := k, names } := by
  rw [Allots, if_neg hfits]
  refine ⟨rfl, ?_⟩
  simp only [System.bare, System.grow, hbare, hnames]

end Backing

open Backing in
/-- A backing whose operations succeed where nothing is in their way. -/
class CompleteBacking (H : Type) [Backing H] [Rights H] : Prop where
  allocate (mode : Mode) (size : Nat) (s : System) : s.Unhindered → size < UInt64.size →
    (Backing.allocate (H := H) mode size).Leads s (Allots size s)
  allocate_readable (mode : Mode) (size : Nat) (k : Kernel) :
    (Backing.allocate (H := H) mode size).Yields k fun outcome k' =>
      ∀ h, outcome = .ok h → Readable k' h
  toReadOnly (h : H) (o : ObjectId) (k : Kernel) : k.Unhindered → Sound k h →
    Grants k h o .writable → (Backing.toReadOnly h).Yields k fun outcome _ => ∃ h', outcome = .ok h'
  toShared (h : H) (o : ObjectId) (k : Kernel) : k.Unhindered → Sound k h →
    Grants k h o .writable → (Backing.toShared h).Yields k fun outcome _ => ∃ h', outcome = .ok h'

namespace SealedFile

open Backing

variable {s : System}

private theorem signed_of_le {size : Nat} (h : size ≤ maxPosition) : signed size = size := by
  unfold signed
  rw [Int.bmod_def]
  simp only [maxPosition, UInt64.size] at h ⊢
  split
  · omega
  · omega

private theorem signed_neg {size : Nat} (h : maxPosition < size) (hlt : size < UInt64.size) :
    signed size < 0 := by
  unfold signed
  rw [Int.bmod_def]
  simp only [maxPosition, UInt64.size] at h hlt ⊢
  split
  · omega
  · omega

theorem allocate_allots (mode : Mode) (size : Nat) (hg : s.kernel.Generous)
    (hsize : size < UInt64.size) : (allocate mode size).Leads s (Allots size s) := by
  obtain ⟨fd, k₁, hcreate, hg₁⟩ := hg.createMemory true
  obtain ⟨-, hfile, hobjects⟩ := created_of_createMemory hcreate
  have hbare : k₁.bare = s.kernel.bare.grow 0 := createMemory_bare hcreate
  have hobject : k₁.object s.kernel.objects.length = .memory true := by
    rw [Kernel.object, hobjects]
    exact object_append_new s.kernel _
  refine .bind (.granted hcreate (.bind (.bind ?_)))
  by_cases hfits : size ≤ maxPosition
  · rw [signed_of_le hfits]
    obtain ⟨k₂, hlength, hg₂, halike⟩ := hg₁.setLength_new hfile hobject size
    have hbare₂ : k₂.bare = s.kernel.bare.grow size := by
      rw [halike.bare, bare_resize, hbare, ← length_bare_objects]
      exact grow_resize _ size
    have hobject₂ : k₂.object s.kernel.objects.length = (Object.memory true).resize size := by
      rw [halike.object, object_modifyObject k₁ _ _ _ (lt_of_kind_memory (by rw [hobject]; rfl)),
        if_pos rfl, hobject]
    have haccepts : k₂.Accepts fd (initialSeals mode) ⟨s.kernel.objects.length, .readWrite⟩ :=
      ⟨(halike.file? fd).trans hfile, rfl, by rw [hobject₂]; rfl, by rw [hobject₂]; rfl,
        fun hfuture => absurd hfuture Bool.false_ne_true,
        fun hwrite => absurd hwrite Bool.false_ne_true⟩
    obtain ⟨k₃, hseals, halike₃⟩ := haccepts.addSeals rfl (hg₂.obliging _ _)
    refine .granted hlength (.pure (.bind (.bind (.granted hseals (.pure (.pure ?_))))))
    exact Allots.of_bare hfits (by rw [halike₃.bare, bare_withSeals, hbare₂]) rfl
  · obtain ⟨k₂, hlength, halike, herror⟩ := hg₁.setLength_negative fd
      (signed_neg (Nat.lt_of_not_le hfits) hsize)
    refine .refused hlength (.bind (.closeDescriptor fun k₃ hk₃ => .pure (.pure ?_)))
    rw [herror]
    exact Allots.of_refused hfits (by rw [hk₃.bare, bare_forget, halike.bare, hbare]) rfl

theorem accepts_of_grants {h : SealedFile} {o : ObjectId} {k : Kernel} (asked : Seals)
    (hg : Grants k h o .writable) (hknown : asked.futureWrite = true → k.knowsFutureWrite = true)
    (hwrite : asked.write = false) : k.Accepts h.fd asked ⟨o, .readWrite⟩ := by
  obtain ⟨access, hfile, hkind, hadmits⟩ := hg
  have hadmits : admits .writable access (k.object o).seals = true := hadmits
  simp only [admits, Bool.and_eq_true, Bool.not_eq_true', beq_iff_eq] at hadmits
  obtain ⟨⟨rfl, -⟩, hopen⟩ := hadmits
  refine ⟨hfile, rfl, hkind, hopen, hknown, fun hw => ?_⟩
  rw [hwrite] at hw
  cases hw

instance : CompleteBacking SealedFile where
  allocate mode size s hu := allocate_allots mode size hu.kernel.generous
  allocate_readable mode size k := (allocate_yields mode size k).mono fun outcome k' hk' => by
    rintro h rfl d hd
    obtain rfl := List.mem_singleton.mp hd
    exact ⟨_, hk'.2.file?, rfl⟩
  toReadOnly h o k hu _ hg :=
    (toReadOnly_of_accepts h (hu.obliging _ _)
      (accepts_of_grants readOnlySeals hg (fun _ => hu.knowsFutureWrite) rfl)).mono
        fun _ _ hk' => ⟨h, hk'⟩
  toShared h o k hu _ hg :=
    (toShared_of_accepts h (hu.obliging _ _)
      (accepts_of_grants closingSeals hg (fun hfuture => absurd hfuture Bool.false_ne_true)
        rfl)).mono fun _ _ hk' => ⟨h, hk'⟩

end SealedFile

namespace DescriptorPair

open Backing

variable {s : System}

private theorem openMarked_leads {call : Kernel → Option Descriptor × Kernel} {d : Descriptor}
    {k₁ : Kernel} {Q : Except Errno Descriptor → System → Prop}
    (hcall : call s.kernel = (some d, k₁)) (hg : k₁.Generous) (hopen : k₁.IsOpen d)
    (h : ∀ k', k₁.Alike k' → Q (.ok d) { s with kernel := k' }) : (openMarked call).Leads s Q := by
  obtain ⟨k', hmark, halike⟩ := hg.markCloseOnExec hopen
  exact .bind (.granted hcall (.bind (.granted hmark (.pure (h k' halike)))))

private theorem unlink_leads {name : String} {id : ObjectId} {Q : Unit → System → Prop}
    (hg : s.kernel.Generous) (hname : s.kernel.names.lookup name = some id)
    (h : ∀ k', ({ s.kernel with names := s.kernel.names.filter (·.1 != name) } : Kernel).Alike k' →
      Q () { s with kernel := k' }) : (unlink name).Leads s Q := by
  obtain ⟨k', hcall, halike⟩ := hg.unlinkShared hname
  exact .bind (.granted hcall (.pure (h k' halike)))

private theorem sized_allots {h : DescriptorPair} {size : Nat} {k : Kernel} {names : Supply}
    (hg : k.Generous) (hfile : k.file? h.fd = some ⟨s.kernel.objects.length, .readWrite⟩)
    (hobject : k.object s.kernel.objects.length = .memory false)
    (hbare : k.bare = s.kernel.bare.grow 0) (hnames : names.draw = s.names.draw) :
    (h.sized size).Leads { s with kernel := k, names } (Allots size s) := by
  refine .bind ?_
  unfold DescriptorPair.setLength
  split
  · rename_i hfits
    obtain ⟨k₁, hlength, -, halike⟩ := hg.setLength_new hfile hobject size
    refine .granted hlength (.pure (Allots.of_bare hfits ?_ hnames))
    rw [halike.bare, bare_resize, hbare, ← length_bare_objects]
    exact grow_resize _ size
  · rename_i hfits
    have hfailed : ∀ {k'}, k'.bare = k.bare →
        Allots size s (.error .invalidArgument : Except Errno DescriptorPair)
          { s with kernel := k', names } := fun hk' =>
      .of_refused hfits (hk'.trans hbare) hnames
    refine .pure ?_
    dsimp only
    split
    · refine .bind (.closeDescriptor fun k₁ hk₁ => .bind (.closeDescriptor fun k₂ hk₂ => ?_))
      exact .pure (hfailed (by rw [hk₂.bare, bare_forget, hk₁.bare, bare_forget]))
    · exact .bind (.closeDescriptor fun k₁ hk₁ => .pure (hfailed (by rw [hk₁.bare, bare_forget])))

private theorem filter_of_lookup {names : List (String × ObjectId)} {name : String}
    (h : names.lookup name = none) : names.filter (·.1 != name) = names := by
  refine List.filter_eq_self.mpr fun entry hentry => ?_
  have hne := List.lookup_eq_none_iff.mp h entry hentry
  simpa [bne, Bool.not_eq_true', BEq.comm] using hne

theorem allocate_allots (mode : Mode) (size : Nat) (hg : s.kernel.Generous)
    (hname : s.kernel.names.lookup (objectName s.names.next) = none) :
    (allocate mode size).Leads s (Allots size s) := by
  refine .bind (.freshName ?_)
  generalize objectName s.names.next = name at hname ⊢
  obtain ⟨fd, k₀, hcreate, hg₀⟩ := hg.createShared hname
  refine .bind (openMarked_leads hcreate hg₀
    ⟨_, (created_of_createShared hcreate (.refl k₀)).file?⟩ fun k₁ hk₁ => ?_)
  have hcreated := created_of_createShared hcreate hk₁
  have hg₁ := hg₀.alike hk₁
  have hbare : k₁.bare = { s.kernel.bare.grow 0 with
      names := (name, s.kernel.objects.length) :: s.kernel.names } :=
    hk₁.bare.trans (createShared_bare hcreate)
  have hobject : k₁.object s.kernel.objects.length = .memory false := by
    rw [Kernel.object, hcreated.objects]
    exact object_append_new s.kernel _
  -- The name is there until it is removed, and then the names are those from before.
  have hlookup : ∀ {k : Kernel}, k.bare = k₁.bare →
      k.names.lookup name = some s.kernel.objects.length := by
    intro k hk
    rw [← bare_names, hk]
    exact hcreated.lookup
  have hunnamed : ∀ {k k' : Kernel}, k.bare = k₁.bare →
      ({ k with names := k.names.filter (·.1 != name) } : Kernel).Alike k' →
        k'.bare = s.kernel.bare.grow 0 := by
    intro k k' hk hk'
    have hnames : k.names = (name, s.kernel.objects.length) :: s.kernel.names :=
      (congrArg Kernel.names (hk.trans hbare) :)
    have hfiltered : k.names.filter (·.1 != name) = s.kernel.names := by
      rw [hnames, List.filter_cons_of_neg (by simp), filter_of_lookup hname]
    rw [hk'.bare, hfiltered]
    exact congrArg (fun k : Kernel => { k with names := s.kernel.names }) (hk.trans hbare)
  dsimp only
  split
  · obtain ⟨spare, k₂, hopen, hg₂⟩ := hg₁.openShared hcreated.lookup
    obtain ⟨hnext, -, hspare, hobjects⟩ := installs_of_openShared hcreated hopen
    refine .bind (openMarked_leads hopen hg₂ ⟨_, hspare⟩ fun k₃ hk₃ => ?_)
    have hbare₃ : k₃.bare = k₁.bare := hk₃.bare.trans (openShared_bare hopen)
    have hg₃ := hg₂.alike hk₃
    refine .bind (unlink_leads hg₃ (hlookup hbare₃) fun k₄ hk₄ => ?_)
    refine sized_allots ((hg₃.withNames _).alike hk₄) ?_ ?_ (hunnamed hbare₃ hk₄) rfl
    · rw [hk₄.file?]
      exact (hk₃.file? fd).trans (hnext.file? List.not_mem_nil hcreated.file?)
    · rw [hk₄.object]
      refine (hk₃.object _).trans ?_
      rw [Kernel.object, hobjects]
      exact hobject
  · refine .bind (unlink_leads hg₁ hcreated.lookup fun k₂ hk₂ => ?_)
    exact sized_allots ((hg₁.withNames _).alike hk₂) ((hk₂.file? fd).trans hcreated.file?)
      ((hk₂.object _).trans hobject) (hunnamed rfl hk₂) rfl

private theorem readable_of_allocated {mode : Mode} {size : Nat} {h : DescriptorPair}
    {k k' : Kernel} (ha : Allocated mode size h k k') : Readable k' h := by
  intro d hd
  rcases List.mem_cons.mp hd with rfl | hd
  · exact ⟨_, ha.file?, rfl⟩
  · have hspare := ha.spare
    rw [Option.mem_toList] at hd
    split at hspare
    · obtain ⟨spare, hs, hfile⟩ := hspare
      obtain rfl := Option.some.inj (hd.symm.trans hs)
      exact ⟨_, hfile, rfl⟩
    · cases hd.symm.trans hspare

instance : CompleteBacking DescriptorPair where
  allocate mode size s hu _ := allocate_allots mode size hu.kernel.generous (hu.names _)
  allocate_readable mode size k := (allocate_yields mode size k).mono fun outcome k' hk' => by
    rintro h rfl
    exact readable_of_allocated hk'.2
  toReadOnly h o k _ hs hg := by
    -- A handle for writing has a reserve.
    obtain ⟨-, -, -, -, hreserve⟩ := hg
    have hreserve : h.spare.bind k.accessOf? = some .read := hreserve
    obtain ⟨spare, hspare, -⟩ := Option.bind_eq_some_iff.mp hreserve
    refine (toReadOnly_yields h k).mono ?_
    intro outcome k' hk'
    cases outcome with
    | error e => exact nomatch hspare.symm.trans hk'.1
    | ok h' => exact ⟨h', rfl⟩
  toShared h o k _ _ _ := (toShared_yields h k).mono fun _ _ hk' => ⟨_, hk'.1⟩

end DescriptorPair

end SharedMemory
