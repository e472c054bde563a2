import SharedMemory.Backing.SealedFile
import SharedMemory.Proofs.Backing.Lawful
import SharedMemory.Proofs.Kernel.Operations
/-!
# The native operations on sealed files

Each operation on sealed files, said once: which descriptors it opens or closes, and what becomes
of the object. A new object is all zero, has the length asked for and the seals of its mode. A
conversion adds seals to the object, which every descriptor of the object shares.
-/
namespace SharedMemory

namespace Effect

/-- The error of an outcome. -/
def failure? {α : Type} : Except Errno α → Option Errno
  | .ok _ => none
  | .error e => some e

end Effect

namespace SealedFile

open Effect Kernel

variable {k : Kernel}

private theorem orClose_yields {d : Descriptor} {step : Effect (Except Errno Unit)}
    {Q : Except Errno Unit → Kernel → Prop} (h : step.Yields k fun outcome k₁ =>
      match outcome with
      | .ok () => Q (.ok ()) k₁
      | .error e => ∀ k', (k₁.forget d).Alike k' → Q (.error e) k') :
    (orClose d step).Yields k Q := by
  refine .bind (h.mono ?_)
  intro outcome k₁ hstep
  cases outcome with
  | ok x => exact .pure hstep
  | error e => exact .bind (.closeDescriptor fun k' hk' => .pure (hstep k' hk'))

private theorem addSeals_yields {d : Descriptor} {asked : Seals} (hexecute : asked.execute = false)
    {Q : Except Errno Unit → Kernel → Prop}
    (ok : ∀ file k', k.file? d = some file → file.access.canWrite = true →
      (k.object file.object).kind = .memory → (k.object file.object).seals.closed = false →
      (asked.write = true → k.hasWritableMapping file.object = false) →
      (k.modifyObject file.object (·.withSeals asked)).Alike k' → Q (.ok ()) k')
    (error : ∀ k', k.Alike k' → Q (.error k'.lastError) k') :
    (SealedFile.addSeals d asked).Yields k Q := by
  refine .attempt (fun _ k' hcall => ?_) fun k' hcall => error k' (invoke_none hcall)
  obtain ⟨file, ha, hk'⟩ := accepts_of_addSeals hexecute hcall
  exact ok file k' ha.file? ha.access ha.kind ha.opened ha.idle hk'

/-- A new object has the given length and the seals of its mode, and is all zero. -/
structure Allocated (mode : Mode) (size : Nat) (h : SealedFile) (k k' : Kernel) : Prop where
  shift : Shift [] [h.fd] [] k k'
  file? : k'.file? h.fd = some ⟨k.objects.length, .readWrite⟩
  kind : (k'.object k.objects.length).kind = .memory
  length : signed size = (k'.object k.objects.length).length
  content : ∀ p, (k'.object k.objects.length).content p = 0
  seals : (k'.object k.objects.length).seals = initialSeals mode

private theorem initialSeals_union (mode : Mode) :
    (Object.memory true).seals.union (initialSeals mode) = initialSeals mode := by
  cases mode with
  | readOnly => rfl
  | writable => rfl
  | shared => rfl

/-- Making an object without a name: a descriptor of it for reading and writing. -/
theorem created_of_createMemory {fd : Descriptor} {k' : Kernel}
    (h : createMemory true k = (some fd, k')) :
    Shift [] [fd] [] k k' ∧ k'.file? fd = some ⟨k.objects.length, .readWrite⟩ ∧
      k'.objects = k.objects ++ [.memory true] := by
  obtain ⟨k₀, hinstall, halike⟩ := createMemory_some h
  have hlt : k.files.length <
      (k.files ++ [(⟨k.objects.length, .readWrite⟩ : OpenFile)]).length := by
    simp only [List.length_append, List.length_singleton]
    omega
  refine ⟨((((Shift.refl k).addObject _).addFile _).installs hinstall hlt).alike halike, ?_, ?_⟩
  · rw [halike.file?, hinstall.file?]
    simp only [List.getElem?_concat_length]
  · obtain ⟨_, _, rfl⟩ := halike
    exact hinstall.objects

/-- Whatever comes of an allocation, memory that was there stays as it is. -/
theorem allocate_yields (mode : Mode) (size : Nat) (k : Kernel) :
    (allocate mode size).Yields k fun outcome k' => Extends k k' ∧
      match outcome with
      | .error _ => Shift [] [] [] k k'
      | .ok h => Allocated mode size h k k' := by
  refine .bind (.attempt (fun fd k₁ hcreate => ?_) fun k₁ hcreate =>
    .pure ⟨(Extends.refl k).alike (invoke_none hcreate),
      (Shift.refl k).alike (invoke_none hcreate)⟩)
  obtain ⟨hshift, hfile, hobjects⟩ := created_of_createMemory hcreate
  have hextends : Extends k k₁ := extends_of_call (.createMemory true) rfl hcreate rfl
  have hnew : k.objects.length < k₁.objects.length := by
    simp only [hobjects, List.length_append, List.length_singleton]
    omega
  have hobject : k₁.object k.objects.length = .memory true := by
    rw [Kernel.object, hobjects]
    exact object_append_new k _
  have hclose : ∀ {k₂ k₃}, Extends k k₂ → Shift [] [fd] [] k k₂ → (k₂.forget fd).Alike k₃ →
      Extends k k₃ ∧ Shift [] [] [] k k₃ := fun hextends hshift h₃ =>
    ⟨(hextends.forget fd).alike h₃,
      (hshift.forgetFresh List.not_mem_nil List.not_mem_nil).alike h₃⟩
  refine .bind (orClose_yields (.attempt (fun _ k₂ hlength => ?_) fun k₂ hlength k₃ h₃ =>
    .pure (hclose (hextends.alike (invoke_none hlength)) (hshift.alike (invoke_none hlength)) h₃)))
  obtain ⟨n, file, hn, hfile₁, -, -, -, -, hk₂⟩ := setLength_some hlength
  obtain rfl : file = ⟨k.objects.length, .readWrite⟩ := Option.some.inj (hfile₁.symm.trans hfile)
  have hobject₂ : k₂.object k.objects.length = (Object.memory true).resize n := by
    rw [hk₂.object, object_modifyObject k₁ _ _ _ hnew, if_pos rfl, hobject]
  have hshift₂ : Shift [] [fd] [] k k₂ :=
    (hshift.modifyNew (Nat.le_refl _) hnew _).alike hk₂
  have hextends₂ : Extends k k₂ := by
    refine (hextends.modifyNew (Nat.le_refl _) ?_).alike hk₂
    rw [hobject]
    exact funext fun p => ite_self _
  have hnew₂ : k.objects.length < k₂.objects.length := by
    obtain ⟨_, _, rfl⟩ := hk₂
    simpa only [modifyObject, List.length_modify] using hnew
  have hfile₂ : k₂.file? fd = some ⟨k.objects.length, .readWrite⟩ := (hk₂.file? fd).trans hfile
  refine .bind (orClose_yields (addSeals_yields ?_ (fun file k₃ hfile₃ _ _ _ _ hk₃ => .pure ?_)
    fun k₃ hk₃ k₄ h₄ => .pure (hclose (hextends₂.alike hk₃) (hshift₂.alike hk₃) h₄)))
  · rfl
  · obtain rfl : file = ⟨k.objects.length, .readWrite⟩ :=
      Option.some.inj (hfile₃.symm.trans hfile₂)
    have hobject₃ : k₃.object k.objects.length =
        ((Object.memory true).resize n).withSeals (initialSeals mode) := by
      rw [hk₃.object, object_modifyObject k₂ _ _ _ hnew₂, if_pos rfl, hobject₂]
    refine ⟨(hextends₂.modifyNew (Nat.le_refl _) rfl).alike hk₃, ?_⟩
    exact {
      shift := (hshift₂.modifyNew (Nat.le_refl _) hnew₂ _).alike hk₃
      file? := (hk₃.file? fd).trans hfile₂
      kind := by rw [hobject₃]; rfl
      length := by rw [hobject₃]; exact hn
      content := fun p => by rw [hobject₃]; exact ite_self _
      seals := by rw [hobject₃]; exact initialSeals_union mode }

theorem duplicate_yields (h : SealedFile) (hopen : k.IsOpen h.fd) :
    h.duplicate.Yields k fun outcome k' =>
      match outcome with
      | .error _ => Shift [] [] [] k k'
      | .ok copy => Shift [] [copy.fd] [] k k' ∧ k'.fileId? copy.fd = k.fileId? h.fd :=
  .bind (.attempt (fun _ _ hcall => .pure (Shift.of_duplicate hopen hcall)) fun _ hcall =>
    .pure ((Shift.refl k).alike (invoke_none hcall)))

theorem duplicate_succeeds (h : SealedFile) (hopen : k.IsOpen h.fd) (ho : k.Obliging)
    (hlimit : k.limit = none) :
    h.duplicate.Yields k fun outcome k' => (∃ copy, outcome = .ok copy) ∧ k'.Obliging := by
  obtain ⟨id, hid⟩ := hopen.fileId?
  obtain ⟨copy, k', hcall, ho', -⟩ := duplicate_of_fileId? ho hlimit hid
  exact .bind (.attemptSome hcall (.pure ⟨⟨_, rfl⟩, ho'⟩))

/-- The calls by which a sealed file is made read-only, latest first, with the seals that the last
one asks for and its error. -/
inductive Attempts (d : Descriptor) : List Event → Seals → Option Errno → Prop where
  | once {error : Option Errno} (final : error ≠ some .invalidArgument) :
    Attempts d [⟨.addSeals d readOnlySeals.mask, error⟩] readOnlySeals error
  | again (error : Option Errno) :
    Attempts d [⟨.addSeals d strictSeals.mask, error⟩,
      ⟨.addSeals d readOnlySeals.mask, some .invalidArgument⟩] strictSeals error

theorem Attempts.asked {d : Descriptor} {events : List Event} {asked : Seals} {error : Option Errno}
    (h : Attempts d events asked error) : asked = readOnlySeals ∨ asked = strictSeals := by
  cases h with
  | once => exact .inl rfl
  | again => exact .inr rfl

/-- One call for seals is on record with its error, and it succeeds on what the kernel accepts. -/
private theorem addSeals_recorded {d : Descriptor} {asked : Seals}
    (hexecute : asked.execute = false) {Q : Except Errno Unit → Kernel → Prop}
    (ok : ∀ file k', k.Accepts d asked file →
      (k.modifyObject file.object (·.withSeals asked)).Alike k' →
        k'.history = ⟨.addSeals d asked.mask, none⟩ :: k.history → Q (.ok ()) k')
    (error : ∀ e k', k.Alike k' → k'.history = ⟨.addSeals d asked.mask, some e⟩ :: k.history →
      Q (.error e) k') :
    (SealedFile.addSeals d asked).Yields k Q := by
  refine .attempt (fun _ k' hcall => ?_) fun k' hcall =>
    error _ k' (invoke_none hcall) (invoke_none_history hcall)
  obtain ⟨file, haccepts, hk'⟩ := accepts_of_addSeals hexecute hcall
  exact ok file k' haccepts hk' (addSeals_history hcall)

theorem toReadOnly_attempts (h : SealedFile) (k : Kernel) :
    h.toReadOnly.Yields k fun outcome k' => ∃ events asked,
      Attempts h.fd events asked (failure? outcome) ∧ k'.history = events ++ k.history ∧
        (∀ e, outcome = .error e → k.Alike k') ∧
        ∀ h', outcome = .ok h' → h' = h ∧ ∃ file, k.Accepts h.fd asked file ∧
          (k.modifyObject file.object (·.withSeals asked)).Alike k' := by
  refine .bind (addSeals_recorded rfl (fun file k₁ haccepts hk₁ hhistory => ?_)
    fun e k₁ hk₁ hhistory => ?_)
  · refine .bind (.pure (.pure ⟨_, _, .once nofun, hhistory, nofun, ?_⟩))
    rintro _ ⟨⟩
    exact ⟨rfl, file, haccepts, hk₁⟩
  · dsimp only
    split
    · rename_i hinvalid
      subst hinvalid
      refine .bind (.record (.bind (addSeals_recorded rfl
        (fun file k₂ haccepts hk₂ hhistory₂ => .pure ?_)
        fun e k₂ hk₂ hhistory₂ => .pure ?_)))
      · refine ⟨_, _, .again none, by rw [hhistory₂, hhistory]; rfl, nofun, ?_⟩
        rintro _ ⟨⟩
        refine ⟨rfl, file, hk₁.accepts_iff.mp haccepts, ?_⟩
        obtain ⟨_, _, rfl⟩ := hk₁
        exact .trans ⟨_, _, rfl⟩ hk₂
      · exact ⟨_, _, .again (some e), by rw [hhistory₂, hhistory]; rfl,
          fun _ _ => hk₁.trans hk₂, nofun⟩
    · rename_i hother
      refine .bind (.pure (.pure ⟨_, _, .once fun he => hother (Option.some.inj he), hhistory,
        fun _ _ => hk₁, nofun⟩))

/-- A conversion that succeeds has added one of two sets of seals to an object whose seal set was
open. The stricter one is only added while no writable mapping of the object is live. -/
theorem toReadOnly_yields (h : SealedFile) (k : Kernel) :
    h.toReadOnly.Yields k fun outcome k' =>
      match outcome with
      | .error _ => k.Alike k'
      | .ok h' => h' = h ∧ ∃ file added, k.file? h.fd = some file ∧
          (k.object file.object).kind = .memory ∧ (k.object file.object).seals.closed = false ∧
          (added = readOnlySeals ∨
            added = strictSeals ∧ k.hasWritableMapping file.object = false) ∧
          (k.modifyObject file.object (·.withSeals added)).Alike k' := by
  refine (toReadOnly_attempts h k).mono ?_
  rintro outcome k' ⟨events, asked, hattempts, -, hfailed, hdone⟩
  cases outcome with
  | error e => exact hfailed e rfl
  | ok h' =>
    obtain ⟨hsame, file, haccepts, hk'⟩ := hdone h' rfl
    refine ⟨hsame, file, asked, haccepts.file?, haccepts.kind, haccepts.opened, ?_, hk'⟩
    refine hattempts.asked.imp_right ?_
    rintro rfl
    exact ⟨rfl, haccepts.idle rfl⟩

theorem toShared_yields (h : SealedFile) (k : Kernel) :
    h.toShared.Yields k fun outcome k' =>
      match outcome with
      | .error _ => k.Alike k'
      | .ok h' => h' = h ∧ ∃ file, k.file? h.fd = some file ∧
          (k.object file.object).kind = .memory ∧ (k.object file.object).seals.closed = false ∧
          (k.modifyObject file.object (·.withSeals closingSeals)).Alike k' := by
  refine .bind (addSeals_yields rfl (fun file k₁ hfile _ hkind hclosed _ hk₁ => .pure ?_)
    fun k₁ hk₁ => .pure hk₁)
  exact ⟨rfl, file, hfile, hkind, hclosed, hk₁⟩

/-- The first call is enough where the kernel accepts what it asks for. -/
theorem toReadOnly_of_accepts (h : SealedFile) {file : OpenFile}
    (hplan : k.refusal k.history (.addSeals h.fd readOnlySeals.mask) = none)
    (haccepts : k.Accepts h.fd readOnlySeals file) :
    h.toReadOnly.Yields k fun outcome _ => outcome = .ok h := by
  obtain ⟨k', hcall, -⟩ := haccepts.addSeals rfl hplan
  exact .bind (.attemptSome hcall (.bind (.pure (.pure rfl))))

theorem toShared_of_accepts (h : SealedFile) {file : OpenFile}
    (hplan : k.refusal k.history (.addSeals h.fd closingSeals.mask) = none)
    (haccepts : k.Accepts h.fd closingSeals file) :
    h.toShared.Yields k fun outcome _ => outcome = .ok h := by
  obtain ⟨k', hcall, -⟩ := haccepts.addSeals rfl hplan
  exact .bind (.attemptSome hcall (.pure rfl))

theorem release_yields (h : SealedFile) (k : Kernel) :
    (Backing.release h).Yields k fun _ k' => Shift [h.fd] [] [] k k' :=
  .closeDescriptor fun _ hk' => ((Shift.refl k).forget List.not_mem_nil).alike hk'

/-- What the kernel knows of a handle stands for a mode and for so many bytes. -/
def Admitted (k : Kernel) (h : SealedFile) (mode : Mode) (size : Nat) : Prop :=
  ∃ access seals length, k.accessOf? h.fd = some access ∧ k.sealsOf? h.fd = some seals ∧
    k.lengthOf? h.fd = some length ∧ size ≤ length ∧ admits mode access seals = true

theorem corresponds_yields (h : SealedFile) (mode : Mode) (size : Nat) (k : Kernel) :
    (h.corresponds mode size).Yields k fun answer k' =>
      k.Alike k' ∧ (answer = true → Admitted k h mode size) ∧
        (k.Candid → Admitted k h mode size → answer = true) := by
  refine .bind (.query (queryAccess_reports h.fd k) ?_)
  intro access k₁ hk₁ haccess haccess'
  refine .bind (.query (querySeals_reports h.fd k₁) ?_)
  intro seals k₂ hk₂ hseals hseals'
  refine .bind (.query (queryLength_reports h.fd k₂) ?_)
  intro length k₃ hk₃ hlength hlength'
  have hk₂ := hk₁.trans hk₂
  have hk₃ := hk₂.trans hk₃
  rw [hk₁.sealsOf?] at hseals hseals'
  rw [hk₂.lengthOf?] at hlength hlength'
  -- A query that failed is reported, and then the kernel is not obliging or knows nothing.
  have hanswers : k.Candid → Admitted k h mode size → ∃ a s n, access = .ok a ∧ seals = .ok s ∧
      length = .ok n ∧ size ≤ n ∧ admits mode a s = true := by
    rintro hc ⟨a, s, n, ha, hs, hn, hsize, hadmits⟩
    exact ⟨a, s, n, haccess' hc a ha, hseals' (hk₁.candid hc) s hs,
      hlength' (hk₂.candid hc) n hn, hsize, hadmits⟩
  cases access with
  | error e =>
    refine .bind (.record (.pure ⟨hk₃, nofun, fun hc hadm => ?_⟩))
    obtain ⟨_, _, _, ha, _⟩ := hanswers hc hadm
    cases ha
  | ok a =>
    cases seals with
    | error e =>
      refine .bind (.record (.pure ⟨hk₃, nofun, fun hc hadm => ?_⟩))
      obtain ⟨_, _, _, _, hs, _⟩ := hanswers hc hadm
      cases hs
    | ok s =>
      cases length with
      | error e =>
        refine .bind (.record (.pure ⟨hk₃, nofun, fun hc hadm => ?_⟩))
        obtain ⟨_, _, _, _, _, hn, _⟩ := hanswers hc hadm
        cases hn
      | ok n =>
        dsimp only
        split
        · rename_i hshort
          refine .bind (.record (.pure ⟨hk₃, nofun, fun hc hadm => ?_⟩))
          obtain ⟨_, _, _, ⟨⟩, ⟨⟩, ⟨⟩, hsize, _⟩ := hanswers hc hadm
          exact absurd hshort (Nat.not_lt.mpr hsize)
        · rename_i hsize
          split
          · rename_i hadmits
            exact .pure ⟨hk₃, fun _ => ⟨a, s, n, haccess a rfl, hseals s rfl, hlength n rfl,
              Nat.le_of_not_lt hsize, hadmits⟩, fun _ _ => rfl⟩
          · rename_i hrefused
            refine .bind (.record (.pure ⟨hk₃, nofun, fun hc hadm => ?_⟩))
            obtain ⟨_, _, _, ⟨⟩, ⟨⟩, ⟨⟩, _, hadmits⟩ := hanswers hc hadm
            exact absurd hadmits hrefused

/-- What a check makes of the outcomes of its three queries. -/
def confirms (mode : Mode) (size : Nat) :
    Except Errno Access → Except Errno Seals → Except Errno Nat → Bool
  | .ok access, .ok seals, .ok length => decide (size ≤ length) && admits mode access seals
  | _, _, _ => false

private theorem corresponds_answer (h : SealedFile) (s : System) :
    ∃ access seals length, (∀ n, length = .ok n → s.kernel.lengthOf? h.fd = some n) ∧
      ∀ mode size,
        ((h.corresponds mode size).run s).1 = confirms mode size access seals length := by
  obtain ⟨haccess, -⟩ := Yields.run_query (queryAccess_reports h.fd s.kernel)
  generalize hfirst : (attempt (Kernel.queryAccess h.fd)).run s = first at haccess
  obtain ⟨hseals, -⟩ := Yields.run_query (querySeals_reports h.fd first.2.kernel)
  generalize hsecond : (attempt (Kernel.querySeals h.fd)).run first.2 = second at hseals
  obtain ⟨-, hlength⟩ := Yields.run_query (queryLength_reports h.fd second.2.kernel)
  generalize hthird : (attempt (Kernel.queryLength h.fd)).run second.2 = third at hlength
  rw [hseals.lengthOf?, haccess.lengthOf?] at hlength
  refine ⟨first.1, second.1, third.1, hlength, fun mode size => ?_⟩
  have hleads : (h.corresponds mode size).Leads s fun answer _ =>
      answer = confirms mode size first.1 second.1 third.1 := by
    refine .bind (.of_run ?_)
    rw [hfirst]
    refine .bind (.of_run ?_)
    rw [hsecond]
    refine .bind (.of_run ?_)
    rw [hthird]
    generalize first.1 = access, second.1 = seals, third.1 = length, third.2 = s'
    cases access with
    | error e => exact .bind (.record fun _ => .pure rfl)
    | ok a =>
      cases seals with
      | error e => exact .bind (.record fun _ => .pure rfl)
      | ok asked =>
        cases length with
        | error e => exact .bind (.record fun _ => .pure rfl)
        | ok n =>
          simp only [confirms]
          split
          · rename_i hshort
            rw [decide_eq_false (Nat.not_le.mpr hshort)]
            exact .bind (.record fun _ => .pure rfl)
          · rename_i hsize
            rw [decide_eq_true (Nat.le_of_not_lt hsize), Bool.true_and]
            split
            · rename_i hadmits
              exact .pure hadmits.symm
            · rename_i hrefused
              exact .bind (.record fun _ => .pure (Bool.eq_false_iff.mpr hrefused).symm)
  exact hleads

/-- The size asked for enters a check in one place only, where the length of the object decides. -/
theorem corresponds_size {h : SealedFile} {n : Nat} {s : System} (mode : Mode) (size : Nat)
    (hlength : s.kernel.lengthOf? h.fd = some n) :
    ((h.corresponds mode size).run s).1 =
      (decide (size ≤ n) && ((h.corresponds mode 0).run s).1) := by
  obtain ⟨access, seals, length, hmeasured, hanswer⟩ := corresponds_answer h s
  rw [hanswer, hanswer]
  cases access with
  | error e => exact (Bool.and_false _).symm
  | ok a =>
    cases seals with
    | error e => exact (Bool.and_false _).symm
    | ok asked =>
      cases length with
      | error e => exact (Bool.and_false _).symm
      | ok m =>
        obtain rfl := Option.some.inj (hlength.symm.trans (hmeasured m rfl))
        simp only [confirms, Nat.zero_le, decide_true, Bool.true_and]

/-- The objects behind sealed files are memory objects, and the reserve is never used. -/
instance : Rights SealedFile where
  Fit object := object.kind = .memory
  Admits mode access _ seals := admits mode access seals = true

theorem admits_functional {m m' : Mode} {a a' : Access} {s : Seals} (h : admits m a s = true)
    (h' : admits m' a' s = true) : m = m' := by
  cases m <;> cases m' <;> simp_all [admits]

theorem admits_sealing {m : Mode} {a : Access} {s s' : Seals} (hs : s.Subset s')
    (hclosed : s.closed = true → s' = s) (hm : m ≠ .writable) (h : admits m a s = true) :
    admits m a s' = true := by
  cases m with
  | readOnly => exact hs.blocksWrites h
  | writable => exact absurd rfl hm
  | shared =>
    have hc : s.closed = true := by
      simp only [admits, Bool.and_eq_true] at h
      exact h.2
    rwa [hclosed hc]

private theorem admits_writable_of_subset {a : Access} {s s' : Seals} (hs : s.Subset s')
    (h : admits .writable a s' = true) : admits .writable a s = true := by
  simp only [admits, Bool.and_eq_true, Bool.not_eq_true', beq_iff_eq] at h ⊢
  obtain ⟨⟨ha, hblocks⟩, hclosed⟩ := h
  refine ⟨⟨ha, Bool.eq_false_iff.mpr fun hb => ?_⟩, Bool.eq_false_iff.mpr fun hc => ?_⟩
  · rw [hs.blocksWrites hb] at hblocks
    cases hblocks
  · rw [hs.closed hc] at hclosed
    cases hclosed

theorem eq_of_signed_eq {n m : Nat} (hn : n < UInt64.size) (h : signed n = m) : m = n := by
  unfold signed at h
  rw [Int.bmod_def] at h
  simp only [UInt64.size] at hn h
  split at h
  · omega
  · omega

theorem allocated_makes {mode : Mode} {size : Nat} {h : SealedFile} {k' : Kernel}
    (hmode : mode ≠ .readOnly) (hsize : size < UInt64.size) (ha : Allocated mode size h k k') :
    Backing.Makes mode size h k k' where
  shift := ha.shift
  nodup := List.pairwise_singleton _ _
  refers d hd := by
    obtain rfl := List.mem_singleton.mp hd
    exact ⟨⟨_, ha.file?⟩, ha.kind⟩
  grants := by
    refine ⟨_, ha.file?, ha.kind, ?_⟩
    change admits mode .readWrite _ = true
    rw [ha.seals]
    cases mode with
    | readOnly => exact absurd rfl hmode
    | writable | shared => rfl
  length := eq_of_signed_eq hsize ha.length

theorem grantsBytes_iff {h : SealedFile} {mode : Mode} {size : Nat} (hs : Backing.Sound k h) :
    Backing.GrantsBytes k h mode size ↔ Admitted k h mode size := by
  obtain ⟨o, ⟨access, hfile⟩, hkind⟩ := hs _ (Backing.descriptor_mem h)
  change k.file? h.fd = _ at hfile
  change (k.object o).kind = .memory at hkind
  have hnot : (k.object o).kind ≠ .pipe := by
    rw [hkind]
    nofun
  have haccess : k.accessOf? h.fd = some access := by
    rw [accessOf?, hfile, Option.bind_some]
  have hseals : k.sealsOf? h.fd = some (k.object o).seals := by
    rw [sealsOf?, hfile, Option.bind_some, if_neg hnot]
  have hlength : k.lengthOf? h.fd = some (k.object o).length := by
    rw [lengthOf?, hfile, Option.bind_some]
  constructor
  · rintro ⟨o', ⟨access', hfile', _, hadmits⟩, hsize⟩
    obtain ⟨rfl, rfl⟩ := OpenFile.mk.inj (Option.some.inj (hfile.symm.trans hfile'))
    exact ⟨_, _, _, haccess, hseals, hlength, hsize, hadmits⟩
  · rintro ⟨a, s, n, ha, hs, hn, hsize, hadmits⟩
    obtain rfl := Option.some.inj (haccess.symm.trans ha)
    obtain rfl := Option.some.inj (hseals.symm.trans hs)
    obtain rfl := Option.some.inj (hlength.symm.trans hn)
    exact ⟨o, ⟨access, hfile, hkind, hadmits⟩, hsize⟩

/-- Seals that are added to the object of a writable handle, and give it another mode. -/
private theorem turns_of_addSeals {h : SealedFile} {o : ObjectId} {k' : Kernel} {goal : Mode}
    {added : Seals} {file : OpenFile} (hg : Backing.Grants k h o .writable)
    (hfile : k.file? h.fd = some file) (hclosed : (k.object file.object).seals.closed = false)
    (hadmits : admits goal .readWrite ((k.object o).seals.union added) = true)
    (hk' : (k.modifyObject file.object (·.withSeals added)).Alike k') :
    Backing.Turns goal h h o k k' := by
  obtain ⟨access, hfile', hkind, hwritable⟩ := hg
  have hkind : (k.object o).kind = .memory := hkind
  obtain rfl := Option.some.inj (hfile.symm.trans hfile')
  have hlt := lt_of_kind_memory hkind
  obtain rfl : access = .readWrite := by
    simp only [Rights.Admits, admits, Bool.and_eq_true, beq_iff_eq] at hwritable
    exact hwritable.1.1
  refine ⟨⟨[], [o], (Shift.addSeals k hlt hclosed added).alike hk', .refl _,
    fun t ht => List.mem_singleton.mp ht⟩, o, .readWrite, (hk'.file? _).trans hfile, ?_, ?_⟩
  · change (k'.object o).kind = .memory
    rw [hk'.object, object_modifyObject k o o _ hlt, if_pos rfl]
    exact hkind
  · change admits goal .readWrite (k'.object o).seals = true
    rw [hk'.object, object_modifyObject k o o _ hlt, if_pos rfl]
    exact hadmits

theorem toReadOnly_converts : Backing.Converts toReadOnly .readOnly := by
  intro k h o _ _ hg
  refine (toReadOnly_yields h k).mono ?_
  intro outcome k' hk'
  cases outcome with
  | error e => exact (Shift.refl k).alike hk'
  | ok h' =>
    obtain ⟨rfl, file, added, hfile, -, hclosed, hadded, hk'⟩ := hk'
    refine turns_of_addSeals hg hfile hclosed ?_ hk'
    change Seals.blocksWrites _ = true
    rcases hadded with rfl | ⟨rfl, -⟩
    · simp only [Seals.blocksWrites, Seals.union, readOnlySeals, Bool.or_true]
    · simp only [Seals.blocksWrites, Seals.union, strictSeals, Bool.or_true, Bool.true_or]

theorem toShared_converts : Backing.Converts toShared .shared := by
  intro k h o _ _ hg
  refine (toShared_yields h k).mono ?_
  intro outcome k' hk'
  cases outcome with
  | error e => exact (Shift.refl k).alike hk'
  | ok h' =>
    obtain ⟨rfl, file, hfile, -, hclosed, hk'⟩ := hk'
    refine turns_of_addSeals hg hfile hclosed ?_ hk'
    obtain ⟨access, -, -, hwritable⟩ := hg
    simp only [Rights.Admits, admits, Bool.and_eq_true, Bool.not_eq_true', Seals.blocksWrites,
      Bool.or_eq_false_iff] at hwritable
    obtain ⟨⟨-, hwrite, hfuture⟩, -⟩ := hwritable
    simp only [admits, Seals.blocksWrites, Seals.union, closingSeals, hwrite, hfuture,
      Bool.or_self, Bool.or_true, Bool.not_false, Bool.and_true, beq_self_eq_true]

instance : LawfulBacking SealedFile where
  memory_of_fit h := h
  fit_sealing hs h := hs.kind.trans h
  admits_functional := admits_functional
  admits_sealing := admits_sealing
  admits_of_subset := admits_writable_of_subset
  blocked h := .inr h
  mappable {m} _ _ _ _ hm h := by
    cases m with
    | readOnly => exact absurd rfl hm
    | writable | shared =>
      simp only [Rights.Admits, admits, Bool.and_eq_true, Bool.not_eq_true', beq_iff_eq] at h
      exact h.1
  allocate_yields mode size k hmode hsize :=
    (allocate_yields mode size k).mono fun outcome k' hk' => by
      cases outcome with
      | error e => exact hk'.2
      | ok h => exact allocated_makes hmode hsize hk'.2
  duplicate_yields h k hopen :=
    (duplicate_yields h (hopen _ (Backing.descriptor_mem h))).mono fun outcome k' hk' => by
      cases outcome with
      | error e => exact hk'
      | ok copy =>
        refine ⟨hk'.1, List.pairwise_singleton _ _, ?_, rfl⟩
        exact hk'.1.file?_eq_of_fileId? (hopen _ (Backing.descriptor_mem h)) hk'.2
  duplicate_succeeds h _ hopen := duplicate_succeeds h (hopen _ (Backing.descriptor_mem h))
  toReadOnly_converts := toReadOnly_converts
  toShared_converts := toShared_converts
  release_yields := release_yields
  corresponds_yields h mode size k hs := by
    rw [grantsBytes_iff hs]
    exact corresponds_yields h mode size k

end SealedFile

end SharedMemory
