import SharedMemory.Backing.DescriptorPair
import SharedMemory.Proofs.Backing.Lawful
import SharedMemory.Proofs.Kernel.Operations
/-!
# The native operations on descriptor pairs

Each operation on descriptor pairs, said once. A new writable pair has both its descriptors on one
new object, the first for reading and writing and the second for reading. Becoming read-only
closes the first and keeps the second, and no operation touches an object that was there before.
-/
namespace SharedMemory.DescriptorPair

open Effect Kernel

variable {k : Kernel}

/-- The objects behind pairs take no seals, so nothing but the access stands for the mode. -/
instance : Rights DescriptorPair where
  Fit object := object.kind = .memory ∧ object.seals = { closed := true }
  Admits mode access reserve _ := access = expectedAccess mode ∧
    reserve = if mode = .writable then some .read else none

theorem openMarked_yields {call : Kernel → Option Descriptor × Kernel}
    {Q : Except Errno Descriptor → Kernel → Prop}
    (ok : ∀ d k₁ k', call k = (some d, k₁) → k₁.Alike k' → Q (.ok d) k')
    (unmarked : ∀ d k₁ k' e, call k = (some d, k₁) → (k₁.forget d).Alike k' → Q (.error e) k')
    (error : ∀ k', call k = (none, k') → Q (.error k'.lastError) k') :
    (openMarked call).Yields k Q := by
  refine .bind (.attempt (fun d k₁ hcall => ?_) fun k' hcall => .pure (error k' hcall))
  refine .bind (.attemptAlike (markCloseOnExec_alike d k₁) ?_)
  intro outcome k₂ hk₂
  cases outcome with
  | ok x => exact .pure (ok d k₁ k₂ hcall hk₂)
  | error e =>
    exact .bind (.closeDescriptor fun k' hk' =>
      .pure (unmarked d k₁ k' e hcall ((hk₂.forget d).trans hk')))

private theorem unlink_yields {name : String} {Q : Unit → Kernel → Prop}
    (h : ∀ names k', ({ k with names } : Kernel).Alike k' → Q () k') :
    (unlink name).Yields k Q := by
  obtain ⟨names, halike⟩ := unlinkShared_alike name k
  refine .bind (.attempt (fun x k' hcall => ?_) fun k' hcall => ?_)
  · rw [hcall] at halike
    exact .pure (h names k' halike)
  · rw [hcall] at halike
    exact .record (h names k' halike)

/-- Opening a new name: a new object, and a descriptor of it for reading and writing. -/
structure Created (name : String) (fd : Descriptor) (k k' : Kernel) : Prop where
  shift : Shift [] [fd] [] k k'
  file? : k'.file? fd = some ⟨k.objects.length, .readWrite⟩
  objects : k'.objects = k.objects ++ [.memory false]
  lookup : k'.names.lookup name = some k.objects.length

theorem created_of_createShared {name : String} {fd : Descriptor} {k k₁ k' : Kernel}
    (h : createShared name k = (some fd, k₁)) (h' : k₁.Alike k') : Created name fd k k' := by
  obtain ⟨k₀, hinstall, halike⟩ := createShared_some h
  have halike := halike.trans h'
  have hlt : k.files.length <
      (k.files ++ [(⟨k.objects.length, .readWrite⟩ : OpenFile)]).length := by
    simp only [List.length_append, List.length_singleton]
    omega
  have hnames : k'.names = (name, k.objects.length) :: k.names := by
    obtain ⟨_, _, rfl⟩ := halike
    exact hinstall.names
  exact {
    shift := (((((Shift.refl k).addObject _).addFile _).names _).installs hinstall hlt).alike halike
    file? := by
      rw [halike.file?, hinstall.file?]
      simp only [List.getElem?_concat_length]
    objects := by
      obtain ⟨_, _, rfl⟩ := halike
      exact hinstall.objects
    lookup := by
      rw [hnames, List.lookup_cons, beq_self_eq_true] }

/-- The descriptors of a new handle, and the object that they have in common. -/
structure Opened (mode : Mode) (h : DescriptorPair) (k k' : Kernel) : Prop where
  shift : Shift [] (Backing.descriptors h) [] k k'
  file? : k'.file? h.fd = some ⟨k.objects.length, .readWrite⟩
  spare : if mode = .writable then
      ∃ spare, h.spare = some spare ∧ k'.file? spare = some ⟨k.objects.length, .read⟩
    else h.spare = none
  lt : k.objects.length < k'.objects.length

/-- A new object has the given length, takes no seals and is all zero. -/
structure Allocated (mode : Mode) (size : Nat) (h : DescriptorPair) (k k' : Kernel) : Prop
    extends Opened mode h k k' where
  kind : (k'.object k.objects.length).kind = .memory
  seals : (k'.object k.objects.length).seals = { closed := true }
  length : (k'.object k.objects.length).length = size
  content : ∀ p, (k'.object k.objects.length).content p = 0

/-- Opening a name once more: a second descriptor of its object, for reading. -/
theorem installs_of_openShared {name : String} {fd spare : Descriptor} {k₁ k₂ : Kernel}
    (hc : Created name fd k k₁) (h : openShared name k₁ = (some spare, k₂)) :
    Shift [] [spare] [] k₁ k₂ ∧ Shift [] [spare, fd] [] k k₂ ∧
      k₂.file? spare = some ⟨k.objects.length, .read⟩ ∧ k₂.objects = k₁.objects := by
  obtain ⟨object, k₀, hlookup, hinstall, halike⟩ := openShared_some h
  obtain rfl : object = k.objects.length := Option.some.inj (hlookup.symm.trans hc.lookup)
  have hlt : k₁.files.length < (k₁.files ++ [(⟨k.objects.length, .read⟩ : OpenFile)]).length := by
    simp only [List.length_append, List.length_singleton]
    omega
  refine ⟨(((Shift.refl k₁).addFile _).installs hinstall hlt).alike halike,
    ((hc.shift.addFile _).installs hinstall hlt).alike halike, ?_, ?_⟩
  · rw [halike.file?, hinstall.file?]
    simp only [List.getElem?_concat_length]
  · obtain ⟨_, _, rfl⟩ := halike
    exact hinstall.objects

namespace Opened

variable {mode : Mode} {h : DescriptorPair} {k₀ k' : Kernel}

theorem nodup (ho : Opened mode h k₀ k) : (Backing.descriptors h).Nodup := by
  have hspare := ho.spare
  split at hspare
  · obtain ⟨spare, hs, hfile⟩ := hspare
    have hne : h.fd ≠ spare := by
      intro heq
      have hsame := ho.file?.symm.trans (heq ▸ hfile)
      cases hsame
    change (h.fd :: h.spare.toList).Nodup
    rw [hs]
    simpa using hne
  · change (h.fd :: h.spare.toList).Nodup
    rw [hspare]
    simp

theorem alike (ho : Opened mode h k₀ k) (halike : k.Alike k') : Opened mode h k₀ k' := by
  refine ⟨ho.shift.alike halike, (halike.file? _).trans ho.file?, ?_, ?_⟩
  · simpa only [halike.file?] using ho.spare
  · obtain ⟨_, _, rfl⟩ := halike
    exact ho.lt

theorem modify (ho : Opened mode h k₀ k) (f : Object → Object) :
    Opened mode h k₀ (k.modifyObject k₀.objects.length f) := by
  refine ⟨ho.shift.modifyNew (Nat.le_refl _) ho.lt f, ho.file?, ho.spare, ?_⟩
  simpa only [modifyObject, List.length_modify] using ho.lt

/-- Closing the descriptors of a new handle leaves no trace. -/
theorem close (ho : Opened mode h k₀ k) (hextends : Extends k₀ k) {α : Type} {next : Effect α}
    {Q : α → Kernel → Prop}
    (hnext : ∀ k', Extends k₀ k' → Shift [] [] [] k₀ k' → next.Yields k' Q) :
    (match h.spare with
      | some spare => do
        Backing.closeDescriptor spare
        Backing.closeDescriptor h.fd
        next
      | none => do
        Backing.closeDescriptor h.fd
        next).Yields k Q := by
  have hshift : Shift [] (h.fd :: h.spare.toList) [] k₀ k := ho.shift
  have hnodup : (h.fd :: h.spare.toList).Nodup := ho.nodup
  cases hs : h.spare with
  | none =>
    rw [hs] at hshift
    refine .bind (.closeDescriptor fun k₁ hk₁ => hnext k₁ ((hextends.forget _).alike hk₁) ?_)
    exact (hshift.forgetFresh List.not_mem_nil List.not_mem_nil).alike hk₁
  | some spare =>
    rw [hs] at hshift hnodup
    have hne : h.fd ≠ spare := by simpa using hnodup
    refine .bind (.closeDescriptor fun k₁ hk₁ => .bind (.closeDescriptor fun k₂ hk₂ =>
      hnext k₂ ((((hextends.forget _).alike hk₁).forget _).alike hk₂) ?_))
    have hfirst : Shift [] [h.fd] [] k₀ k₁ :=
      ((hshift.perm .nil (.swap _ _ _)).forgetFresh List.not_mem_nil
        (by simpa using hne.symm)).alike hk₁
    exact (hfirst.forgetFresh List.not_mem_nil List.not_mem_nil).alike hk₂

end Opened

private theorem sized_yields {mode : Mode} {h : DescriptorPair} {size : Nat} {k₀ : Kernel}
    (ho : Opened mode h k₀ k) (hextends : Extends k₀ k)
    (hobject : k.object k₀.objects.length = .memory false) :
    (h.sized size).Yields k fun outcome k' => Extends k₀ k' ∧
      match outcome with
      | .error _ => Shift [] [] [] k₀ k'
      | .ok h' => Allocated mode size h' k₀ k' := by
  have hfailed : ∀ {k₁}, k.Alike k₁ → ∀ e : Errno,
      (match h.spare with
        | some spare => do
          Backing.closeDescriptor spare
          Backing.closeDescriptor h.fd
          return .error e
        | none => do
          Backing.closeDescriptor h.fd
          return .error e : Effect (Except Errno DescriptorPair)).Yields k₁ fun outcome k' =>
        Extends k₀ k' ∧
          match outcome with
          | .error _ => Shift [] [] [] k₀ k'
          | .ok h' => Allocated mode size h' k₀ k' :=
    fun hk₁ e => (ho.alike hk₁).close (hextends.alike hk₁) fun k' hextends' hk' =>
      .pure ⟨hextends', hk'⟩
  refine .bind ?_
  unfold DescriptorPair.setLength
  split
  · refine .attempt (fun _ k₁ hcall => ?_) fun k₁ hcall => hfailed (invoke_none hcall) _
    obtain ⟨n, file, hn, hfile, -, -, -, -, hk₁⟩ := setLength_some hcall
    obtain rfl : file = ⟨k₀.objects.length, .readWrite⟩ :=
      Option.some.inj (hfile.symm.trans ho.file?)
    have hresized : k₁.object k₀.objects.length = (Object.memory false).resize n := by
      rw [hk₁.object, object_modifyObject k _ _ _ ho.lt, if_pos rfl, hobject]
    have hextends₁ : Extends k₀ k₁ := by
      refine (hextends.modifyNew (Nat.le_refl _) ?_).alike hk₁
      rw [hobject]
      exact funext fun p => ite_self _
    refine .pure ⟨hextends₁, { (ho.modify _).alike hk₁ with
      kind := ?_, seals := ?_, length := ?_, content := ?_ }⟩
    · rw [hresized]
      rfl
    · rw [hresized]
      rfl
    · rw [hresized]
      exact (Int.ofNat.inj hn).symm
    · intro p
      rw [hresized]
      exact ite_self _
  · exact .pure (hfailed (.refl k) _)

/-- Whatever comes of an allocation, memory that was there stays as it is. -/
theorem allocate_yields (mode : Mode) (size : Nat) (k : Kernel) :
    (allocate mode size).Yields k fun outcome k' => Extends k k' ∧
      match outcome with
      | .error _ => Shift [] [] [] k k'
      | .ok h => Allocated mode size h k k' := by
  have hunlinked : ∀ {gone fresh touched} {k₁ k₂ : Kernel} {names}, Shift gone fresh touched k k₁ →
      ({ k₁ with names } : Kernel).Alike k₂ → Shift gone fresh touched k k₂ :=
    fun h hk₂ => (h.names _).alike hk₂
  have hunnamed : ∀ {k₁ k₂ : Kernel} {names}, Extends k k₁ → ({ k₁ with names } : Kernel).Alike k₂ →
      Extends k k₂ :=
    fun h hk₂ => (h.names _).alike hk₂
  have hdropped : ∀ {fd k₁ k₂}, Extends k k₁ → Shift [] [fd] [] k k₁ → (k₁.forget fd).Alike k₂ →
      Extends k k₂ ∧ Shift [] [] [] k k₂ :=
    fun hextends h hk₂ => ⟨(hextends.forget _).alike hk₂,
      (h.forgetFresh List.not_mem_nil List.not_mem_nil).alike hk₂⟩
  refine .bind (.freshName fun name => .bind (openMarked_yields (fun fd k₀ k₁ hcreate hk₁ => ?_)
    (fun fd k₀ k₁ e hcreate hk₁ => ?_) fun k₁ hcreate => ?_))
  · have hcreated := created_of_createShared hcreate hk₁
    have hextends : Extends k k₁ :=
      (extends_of_call (.createShared name) rfl hcreate rfl).alike hk₁
    have hnew : k₁.object k.objects.length = .memory false := by
      rw [Kernel.object, hcreated.objects]
      exact object_append_new k _
    have hlt : k.objects.length < k₁.objects.length := by
      simp only [hcreated.objects, List.length_append, List.length_singleton]
      omega
    dsimp only
    split
    · rename_i hmode
      refine .bind (openMarked_yields (fun spare k₂ k₃ hopen hk₃ => ?_)
        (fun spare k₂ k₃ e hopen hk₃ => ?_) fun k₂ hopen => ?_)
      all_goals refine .bind (unlink_yields fun names k₄ hk₄ => ?_)
      all_goals
        have hextends₂ := hextends.trans (extends_of_call (.openShared name) rfl hopen rfl)
      · obtain ⟨hnext, hboth, hspare, hobjects⟩ := installs_of_openShared hcreated hopen
        have hopened : Opened mode ⟨fd, some spare⟩ k k₂ := by
          refine ⟨hboth.perm .nil (.swap _ _ _), hnext.file? List.not_mem_nil hcreated.file?, ?_,
            hobjects ▸ hlt⟩
          rw [if_pos hmode]
          exact ⟨spare, rfl, hspare⟩
        have hobject : k₂.object k.objects.length = .memory false := by
          rw [Kernel.object, hobjects]
          exact hnew
        have hopened := hopened.alike hk₃
        refine sized_yields (Opened.alike
          ⟨hopened.shift.names names, hopened.file?, hopened.spare, hopened.lt⟩ hk₄)
          (hunnamed (hextends₂.alike hk₃) hk₄) ?_
        rw [hk₄.object]
        exact (hk₃.object _).trans hobject
      · obtain ⟨hnext, hboth, _, _⟩ := installs_of_openShared hcreated hopen
        have hne : spare ∉ [fd] := by
          intro hmem
          obtain rfl := List.mem_singleton.mp hmem
          exact not_isOpen_of_fileId?_none (hnext.vacant spare List.mem_cons_self)
            ⟨_, hcreated.file?⟩
        have hfirst : Shift [] [fd] [] k k₃ := (hboth.forgetFresh List.not_mem_nil hne).alike hk₃
        have hextends₃ : Extends k k₃ := (hextends₂.forget spare).alike hk₃
        exact .bind (.closeDescriptor fun k₅ hk₅ =>
          .pure (hdropped (hunnamed hextends₃ hk₄) (hunlinked hfirst hk₄) hk₅))
      · exact .bind (.closeDescriptor fun k₅ hk₅ =>
          .pure (hdropped (hunnamed hextends₂ hk₄)
            (hunlinked (hcreated.shift.alike (invoke_none hopen)) hk₄) hk₅))
    · rename_i hmode
      refine .bind (unlink_yields ?_)
      intro names k₂ hk₂
      refine sized_yields
        (Opened.alike ⟨hcreated.shift.names names, hcreated.file?, ?_, hlt⟩ hk₂)
        (hunnamed hextends hk₂) ?_
      · rw [if_neg hmode]
      · exact (hk₂.object _).trans hnew
  · have hcreated := created_of_createShared hcreate (.refl k₀)
    have hextends := extends_of_call (.createShared name) rfl hcreate rfl
    refine .bind (unlink_yields fun names k₂ hk₂ => .pure ?_)
    obtain ⟨hextends', hshift⟩ := hdropped hextends hcreated.shift hk₁
    exact ⟨hunnamed hextends' hk₂, hunlinked hshift hk₂⟩
  · exact .bind (unlink_yields fun names k₂ hk₂ =>
      .pure ⟨hunnamed ((Extends.refl k).alike (invoke_none hcreate)) hk₂,
        hunlinked ((Shift.refl k).alike (invoke_none hcreate)) hk₂⟩)

/-- Each descriptor of a copy refers to the open file that it was made from. -/
structure Copied (h copy : DescriptorPair) (k k' : Kernel) : Prop where
  shift : Shift [] (Backing.descriptors copy) [] k k'
  nodup : (Backing.descriptors copy).Nodup
  fileId? : k'.fileId? copy.fd = k.fileId? h.fd
  spare : match h.spare, copy.spare with
    | none, none => True
    | some spare, some copied => k'.fileId? copied = k.fileId? spare
    | _, _ => False

theorem duplicate_yields (h : DescriptorPair) (hopen : ∀ d ∈ Backing.descriptors h, k.IsOpen d) :
    h.duplicate.Yields k fun outcome k' =>
      match outcome with
      | .error _ => Shift [] [] [] k k'
      | .ok copy => Copied h copy k k' := by
  obtain ⟨fd, spare⟩ := h
  have hfd : k.IsOpen fd := hopen fd List.mem_cons_self
  cases spare with
  | none =>
    refine .bind (.attempt (fun copy k₁ hcall => .pure ?_) fun k₁ hcall =>
      .pure ((Shift.refl k).alike (invoke_none hcall)))
    obtain ⟨hshift, hid⟩ := Shift.of_duplicate hfd hcall
    exact ⟨hshift, List.pairwise_singleton _ _, hid, trivial⟩
  | some spare =>
    have hspare : k.IsOpen spare := hopen spare (List.mem_cons_of_mem fd List.mem_cons_self)
    refine .bind (.attempt (fun copied k₁ hcall => ?_) fun k₁ hcall =>
      .pure ((Shift.refl k).alike (invoke_none hcall)))
    obtain ⟨hshift, hid⟩ := Shift.of_duplicate hspare hcall
    have hfresh : ∀ {d}, k.IsOpen d → d ∉ [copied] := fun hd hmem =>
      not_isOpen_of_fileId?_none (hshift.vacant _ hmem) hd
    refine .bind (.attempt (fun copy k₂ hcall₂ => .pure ?_) fun k₂ hcall₂ => ?_)
    · obtain ⟨hshift₂, hid₂⟩ :=
        Shift.of_duplicate (hshift.isOpen List.not_mem_nil hfd) hcall₂
      have hcopied : copied ∉ [copy] := fun hmem =>
        not_isOpen_of_fileId?_none (hshift₂.vacant _ hmem) (hshift.opened _ List.mem_cons_self)
      refine ⟨hshift.append hshift₂, ?_, ?_, ?_⟩
      · exact List.nodup_cons.mpr
          ⟨fun hmem => hcopied (List.mem_singleton.mpr (List.mem_singleton.mp hmem).symm),
            List.pairwise_singleton _ _⟩
      · rw [hid₂, hshift.fileId? fd List.not_mem_nil (hfresh hfd)]
      · change k₂.fileId? copied = k.fileId? spare
        rw [hshift₂.fileId? copied List.not_mem_nil hcopied, hid]
    · refine .bind (.closeDescriptor fun k₃ hk₃ => .pure ?_)
      exact ((hshift.alike (invoke_none hcall₂)).forgetFresh List.not_mem_nil
        List.not_mem_nil).alike hk₃

theorem duplicate_succeeds (h : DescriptorPair) (hopen : ∀ d ∈ Backing.descriptors h, k.IsOpen d)
    (ho : k.Obliging) (hlimit : k.limit = none) :
    h.duplicate.Yields k fun outcome k' => (∃ copy, outcome = .ok copy) ∧ k'.Obliging := by
  obtain ⟨fd, spare⟩ := h
  have hfd : k.IsOpen fd := hopen fd List.mem_cons_self
  cases spare with
  | none =>
    obtain ⟨id, hid⟩ := hfd.fileId?
    obtain ⟨copy, k', hcall, ho', -⟩ := duplicate_of_fileId? ho hlimit hid
    exact .bind (.attemptSome hcall (.pure ⟨⟨_, rfl⟩, ho'⟩))
  | some spare =>
    have hspare : k.IsOpen spare := hopen spare (List.mem_cons_of_mem fd List.mem_cons_self)
    obtain ⟨id, hid⟩ := hspare.fileId?
    obtain ⟨copied, k₁, hcall, ho₁, hlimit₁⟩ := duplicate_of_fileId? ho hlimit hid
    have hshift := (Shift.of_duplicate hspare hcall).1
    obtain ⟨id', hid'⟩ := (hshift.isOpen List.not_mem_nil hfd).fileId?
    obtain ⟨copy, k₂, hcall₂, ho₂, -⟩ := duplicate_of_fileId? ho₁ hlimit₁ hid'
    exact .bind (.attemptSome hcall (.bind (.attemptSome hcall₂ (.pure ⟨⟨_, rfl⟩, ho₂⟩))))

theorem Copied.copies {h copy : DescriptorPair} {k' : Kernel} (hc : Copied h copy k k')
    (hopen : ∀ d ∈ Backing.descriptors h, k.IsOpen d) : Backing.Copies k h k' copy where
  mapped := hc.shift.file?_eq_of_fileId? (hopen _ (Backing.descriptor_mem h)) hc.fileId?
  kept := by
    have hspare := hc.spare
    change copy.spare.map k'.file? = h.spare.map k.file?
    cases hcopied : copy.spare with
    | none =>
      cases hsource : h.spare with
      | none => rfl
      | some spare =>
        rw [hcopied, hsource] at hspare
        exact hspare.elim
    | some copied =>
      cases hsource : h.spare with
      | none =>
        rw [hcopied, hsource] at hspare
        exact hspare.elim
      | some spare =>
        rw [hcopied, hsource] at hspare
        have hsame := hc.shift.file?_eq_of_fileId? (hopen _ (Backing.reserve_mem hsource)) hspare
        rw [Option.map_some, Option.map_some, hsame]

/-- The second descriptor takes the place of the first, which is closed. -/
theorem toReadOnly_yields (h : DescriptorPair) (k : Kernel) :
    h.toReadOnly.Yields k fun outcome k' =>
      match outcome with
      | .error e => h.spare = none ∧ e = .badDescriptor ∧ k' = k
      | .ok h' => ∃ spare, h.spare = some spare ∧ h' = ⟨spare, none⟩ ∧
          Shift [h.fd] [] [] k k' := by
  obtain ⟨fd, spare⟩ := h
  cases spare with
  | none => exact .pure ⟨rfl, rfl, rfl⟩
  | some spare =>
    exact .bind (.closeDescriptor fun k' hk' => .pure ⟨spare, rfl, rfl,
      ((Shift.refl k).forget List.not_mem_nil).alike hk'⟩)

theorem toShared_yields (h : DescriptorPair) (k : Kernel) :
    h.toShared.Yields k fun outcome k' =>
      outcome = .ok ⟨h.fd, none⟩ ∧ Shift h.spare.toList [] [] k k' := by
  obtain ⟨fd, spare⟩ := h
  cases spare with
  | none => exact .pure ⟨rfl, .refl k⟩
  | some spare =>
    exact .bind (.closeDescriptor fun k' hk' => .pure
      ⟨rfl, ((Shift.refl k).forget List.not_mem_nil).alike hk'⟩)

theorem release_yields (h : DescriptorPair) (k : Kernel) :
    (Backing.release h).Yields k fun _ k' => Shift (Backing.descriptors h) [] [] k k' := by
  obtain ⟨fd, spare⟩ := h
  change (DescriptorPair.release ⟨fd, spare⟩).Yields k _
  refine .bind (.closeDescriptor ?_)
  intro k₁ hk₁
  have hfirst : Shift [fd] [] [] k k₁ := ((Shift.refl k).forget List.not_mem_nil).alike hk₁
  cases spare with
  | none => exact .pure hfirst
  | some spare =>
    exact .closeDescriptor fun k₂ hk₂ =>
      ((hfirst.forget List.not_mem_nil).alike hk₂).perm (.swap _ _ _) .nil

/-- The second descriptor is as a mode wants it. -/
def SpareAdmitted (k : Kernel) (spare : Option Descriptor) : Mode → Prop
  | .writable => ∃ d, spare = some d ∧ k.accessOf? d = some .read
  | .readOnly | .shared => spare = none

/-- The descriptors of a handle are as a mode wants them, over at least so many bytes. -/
def Admitted (k : Kernel) (h : DescriptorPair) (mode : Mode) (size : Nat) : Prop :=
  k.accessOf? h.fd = some (expectedAccess mode) ∧
    (∃ length, k.lengthOf? h.fd = some length ∧ size ≤ length) ∧ SpareAdmitted k h.spare mode

private theorem spareCorresponds_yields (h : DescriptorPair) (mode : Mode) (k : Kernel) :
    (h.spareCorresponds mode).Yields k fun answer k' =>
      k.Alike k' ∧ (answer = true → SpareAdmitted k h.spare mode) ∧
        (k.Candid → SpareAdmitted k h.spare mode → answer = true) := by
  obtain ⟨fd, spare⟩ := h
  cases mode with
  | writable =>
    cases spare with
    | none => exact .bind (.record (.pure ⟨.refl k, nofun, fun _ ⟨_, h, _⟩ => nomatch h⟩))
    | some d =>
      refine .bind (.query (queryAccess_reports d k) ?_)
      intro outcome k' hk' hsome hanswer
      dsimp only
      split
      · exact .pure ⟨hk', fun _ => ⟨d, rfl, hsome _ rfl⟩, fun _ _ => rfl⟩
      · rename_i hother
        refine .bind (.record (.pure ⟨hk', nofun, ?_⟩))
        rintro hc ⟨_, ⟨⟩, haccess⟩
        exact absurd (hanswer hc _ haccess) hother
  | readOnly | shared =>
    cases spare with
    | none => exact .pure ⟨.refl k, fun _ => rfl, fun _ _ => rfl⟩
    | some d => exact .bind (.record (.pure ⟨.refl k, nofun, fun _ h => nomatch h⟩))

theorem corresponds_yields (h : DescriptorPair) (mode : Mode) (size : Nat) (k : Kernel) :
    (h.corresponds mode size).Yields k fun answer k' =>
      k.Alike k' ∧ (answer = true → Admitted k h mode size) ∧
        (k.Candid → Admitted k h mode size → answer = true) := by
  refine .bind (.query (queryAccess_reports h.fd k) ?_)
  intro access k₁ hk₁ haccess haccess'
  refine .bind (.query (queryLength_reports h.fd k₁) ?_)
  intro length k₂ hk₂ hlength hlength'
  have hk₂ := hk₁.trans hk₂
  rw [hk₁.lengthOf?] at hlength hlength'
  have hanswers : k.Candid → Admitted k h mode size → access = .ok (expectedAccess mode) ∧
      ∃ n, length = .ok n ∧ size ≤ n := by
    rintro hc ⟨ha, ⟨n, hn, hsize⟩, -⟩
    exact ⟨haccess' hc _ ha, n, hlength' (hk₁.candid hc) n hn, hsize⟩
  cases access with
  | error e =>
    exact .bind (.record (.pure ⟨hk₂, nofun, fun hc h => nomatch (hanswers hc h).1⟩))
  | ok a =>
    cases length with
    | error e =>
      refine .bind (.record (.pure ⟨hk₂, nofun, fun hc hadm => ?_⟩))
      obtain ⟨_, _, hn, _⟩ := hanswers hc hadm
      cases hn
    | ok n =>
      dsimp only
      split
      · rename_i hshort
        refine .bind (.record (.pure ⟨hk₂, nofun, fun hc hadm => ?_⟩))
        obtain ⟨_, _, ⟨⟩, hsize⟩ := hanswers hc hadm
        exact absurd hshort (Nat.not_lt.mpr hsize)
      · rename_i hsize
        split
        · rename_i hother
          refine .bind (.record (.pure ⟨hk₂, nofun, fun hc hadm => ?_⟩))
          exact absurd (Except.ok.inj (hanswers hc hadm).1) hother
        · rename_i hsame
          refine (spareCorresponds_yields h mode k₂).mono ?_
          intro answer k₃ hspare
          obtain ⟨hk₃, hadmitted, hadmitted'⟩ := hspare
          have hspares : SpareAdmitted k₂ h.spare mode ↔ SpareAdmitted k h.spare mode := by
            cases mode with
            | writable => simp only [SpareAdmitted, hk₂.accessOf?]
            | readOnly | shared => rfl
          refine ⟨hk₂.trans hk₃, fun htrue => ⟨?_, ⟨n, hlength n rfl, Nat.le_of_not_lt hsize⟩,
            hspares.mp (hadmitted htrue)⟩, fun hc hadm =>
              hadmitted' (hk₂.candid hc) (hspares.mpr hadm.2.2)⟩
          rw [haccess a rfl, Decidable.not_not.mp hsame]

theorem allocated_makes {mode : Mode} {size : Nat} {h : DescriptorPair} {k' : Kernel}
    (ha : Allocated mode size h k k') (hmode : mode ≠ .readOnly) :
    Backing.Makes mode size h k k' where
  shift := ha.shift
  nodup := ha.nodup
  refers d hd := by
    refine ⟨?_, ha.kind, ha.seals⟩
    rcases List.mem_cons.mp hd with rfl | hd
    · exact ⟨_, ha.file?⟩
    · have hspare := ha.spare
      have hd : h.spare = some d := Option.mem_toList.mp hd
      split at hspare
      · obtain ⟨spare, hs, hfile⟩ := hspare
        obtain rfl := Option.some.inj (hd.symm.trans hs)
        exact ⟨_, hfile⟩
      · cases hd.symm.trans hspare
  grants := by
    have hspare := ha.spare
    refine ⟨_, ha.file?, ⟨ha.kind, ha.seals⟩, ?_, ?_⟩
    · cases mode with
      | readOnly => exact absurd rfl hmode
      | writable | shared => rfl
    · change h.spare.bind k'.accessOf? = _
      split at hspare
      · rename_i hwritable
        obtain ⟨spare, hs, hfile⟩ := hspare
        rw [hs, Option.bind_some, accessOf?, hfile, if_pos hwritable]
        rfl
      · rename_i hother
        rw [hspare, if_neg hother]
        rfl
  length := ha.length

/-- With all descriptors open, the second one is as a mode wants it if its access is. -/
private theorem spareAdmitted_iff {h : DescriptorPair} {mode : Mode} (hs : Backing.Sound k h) :
    SpareAdmitted k h.spare mode ↔
      h.spare.bind k.accessOf? = if mode = .writable then some .read else none := by
  have hopen : h.spare.bind k.accessOf? = none → h.spare = none := by
    intro hnone
    cases hspare : h.spare with
    | none => rfl
    | some d =>
      obtain ⟨o, ⟨access, hfile⟩, _⟩ := hs d (Backing.reserve_mem hspare)
      rw [hspare, Option.bind_some, accessOf?, hfile] at hnone
      cases hnone
  cases mode with
  | writable =>
    rw [if_pos rfl]
    exact Option.bind_eq_some_iff.symm
  | readOnly | shared =>
    rw [if_neg (by decide)]
    constructor
    · intro hnone
      have hnone : h.spare = none := hnone
      rw [hnone]
      rfl
    · exact hopen

theorem grantsBytes_iff {h : DescriptorPair} {mode : Mode} {size : Nat} (hs : Backing.Sound k h) :
    Backing.GrantsBytes k h mode size ↔ Admitted k h mode size := by
  obtain ⟨o, ⟨access, hfile⟩, hfit⟩ := hs _ (Backing.descriptor_mem h)
  have hfile : k.file? h.fd = some ⟨o, access⟩ := hfile
  have haccess : k.accessOf? h.fd = some access := by
    rw [accessOf?, hfile, Option.bind_some]
  have hlength : k.lengthOf? h.fd = some (k.object o).length := by
    rw [lengthOf?, hfile, Option.bind_some]
  constructor
  · rintro ⟨o', ⟨access', hfile', _, hadmits, hspare⟩, hsize⟩
    obtain ⟨rfl, rfl⟩ := OpenFile.mk.inj (Option.some.inj (hfile.symm.trans hfile'))
    exact ⟨haccess.trans (congrArg some hadmits), ⟨_, hlength, hsize⟩,
      (spareAdmitted_iff hs).mpr hspare⟩
  · rintro ⟨ha, ⟨n, hn, hsize⟩, hspare⟩
    obtain rfl := Option.some.inj (haccess.symm.trans ha)
    obtain rfl := Option.some.inj (hlength.symm.trans hn)
    exact ⟨o, ⟨_, hfile, hfit, rfl, (spareAdmitted_iff hs).mp hspare⟩, hsize⟩

theorem toReadOnly_converts : Backing.Converts toReadOnly .readOnly := by
  intro k h o hs hnodup hg
  refine (toReadOnly_yields h k).mono ?_
  intro outcome k' hk'
  cases outcome with
  | error e =>
    obtain ⟨-, -, rfl⟩ := hk'
    exact .refl k'
  | ok h' =>
    obtain ⟨spare, hspare, rfl, hshift⟩ := hk'
    have hdescriptors : Backing.descriptors h = [h.fd, spare] := by
      change h.fd :: h.spare.toList = _
      rw [hspare]
      rfl
    have hne : spare ≠ h.fd := by
      rw [hdescriptors] at hnodup
      exact fun heq => (List.nodup_cons.mp hnodup).1 (List.mem_singleton.mpr heq.symm)
    have hgone : spare ∉ [h.fd] := fun hmem => hne (List.mem_singleton.mp hmem)
    refine ⟨⟨[h.fd], [], hshift, hdescriptors ▸ .refl _, nofun⟩, ?_⟩
    obtain ⟨o', hr⟩ := hs spare (Backing.reserve_mem hspare)
    obtain ⟨-, -, -, -, hread⟩ := hg
    have hread : h.spare.bind k.accessOf? = some .read := hread
    have hfile : k.file? spare = some ⟨o', .read⟩ := by
      obtain ⟨access, hfile⟩ := hr.1
      rw [hspare, Option.bind_some, accessOf?, hfile] at hread
      obtain rfl : access = .read := Option.some.inj hread
      exact hfile
    refine ⟨o', .read, hshift.file? hgone hfile, ?_, rfl, rfl⟩
    have hsame := hshift.shape o' (lt_of_kind_memory hr.2.1) List.not_mem_nil
    exact ⟨hsame.kind.trans hr.2.1, hsame.seals.trans hr.2.2⟩

theorem toShared_converts : Backing.Converts toShared .shared := by
  intro k h o hs hnodup hg
  refine (toShared_yields h k).mono ?_
  intro outcome k' hk'
  obtain ⟨rfl, hshift⟩ := hk'
  obtain ⟨access, hfile, hfit, hadmits, -⟩ := hg
  have hgone : h.fd ∉ h.spare.toList := (List.nodup_cons.mp hnodup).1
  refine ⟨⟨h.spare.toList, [], hshift, ?_, nofun⟩, o, access, hshift.file? hgone hfile, ?_,
    hadmits, rfl⟩
  · exact List.perm_append_comm
  · have hsame := hshift.shape o (lt_of_kind_memory hfit.1) List.not_mem_nil
    exact ⟨hsame.kind.trans hfit.1, hsame.seals.trans hfit.2⟩

instance : LawfulBacking DescriptorPair where
  memory_of_fit h := h.1
  fit_sealing hs h := ⟨hs.kind.trans h.1, (hs.closed (by rw [h.2])).trans h.2⟩
  admits_functional {m m'} a r s h h' := by
    obtain ⟨rfl, rfl⟩ := h
    obtain ⟨haccess, hreserve⟩ := h'
    cases m <;> cases m' <;> simp_all [expectedAccess]
  admits_sealing _ _ _ h := h
  admits_of_subset _ h := h
  blocked h := by
    obtain ⟨rfl, rfl⟩ := h
    exact .inl ⟨nofun, nofun⟩
  mappable {m object} _ _ hfit hm h := by
    refine ⟨?_, ?_⟩
    · rw [h.1]
      cases m with
      | readOnly => exact absurd rfl hm
      | writable | shared => rfl
    · rw [hfit.2]
      rfl
  allocate_yields mode size k hmode _ :=
    (allocate_yields mode size k).mono fun outcome k' hk' => by
      cases outcome with
      | error e => exact hk'.2
      | ok h => exact allocated_makes hk'.2 hmode
  duplicate_yields h k hopen :=
    (duplicate_yields h hopen).mono fun outcome k' hk' => by
      cases outcome with
      | error e => exact hk'
      | ok copy => exact ⟨hk'.shift, hk'.nodup, hk'.copies hopen⟩
  duplicate_succeeds h _ := duplicate_succeeds h
  toReadOnly_converts := toReadOnly_converts
  toShared_converts := toShared_converts
  release_yields := release_yields
  corresponds_yields h mode size k hs := by
    rw [grantsBytes_iff hs]
    exact corresponds_yields h mode size k

end SharedMemory.DescriptorPair
