import SharedMemory.Kernel.Files
import SharedMemory.Kernel.Memory
import SharedMemory.Proofs.Kernel.Sealing
/-!
# What a call can do

A call that fails leaves everything but the error cell as it was, and one that succeeds leads to
the state that its answer says. Here that is said once for each call on descriptors, in terms of
what the descriptors refer to, so that nothing later opens the definitions of the calls.
-/
namespace SharedMemory.Kernel

variable {α : Type} {k k' k₁ k₂ : Kernel} {d e : Descriptor}

/-- Nothing differs but the error cell and the calls on record. -/
def Alike (k k' : Kernel) : Prop :=
  ∃ lastError history, k' = { k with lastError, history }

theorem Alike.refl (k : Kernel) : k.Alike k := ⟨_, _, rfl⟩

theorem Alike.trans (h : k.Alike k₁) (h' : k₁.Alike k₂) : k.Alike k₂ := by
  obtain ⟨_, _, rfl⟩ := h
  obtain ⟨_, _, rfl⟩ := h'
  exact ⟨_, _, rfl⟩

theorem Alike.fileId? (h : k.Alike k') (d : Descriptor) : k'.fileId? d = k.fileId? d := by
  obtain ⟨_, _, rfl⟩ := h
  rfl

theorem Alike.file? (h : k.Alike k') (d : Descriptor) : k'.file? d = k.file? d := by
  obtain ⟨_, _, rfl⟩ := h
  rfl

theorem Alike.object (h : k.Alike k') (id : ObjectId) : k'.object id = k.object id := by
  obtain ⟨_, _, rfl⟩ := h
  rfl

theorem Alike.objects (h : k.Alike k') : k'.objects = k.objects := by
  obtain ⟨_, _, rfl⟩ := h
  rfl

theorem Alike.mappings (h : k.Alike k') : k'.mappings = k.mappings := by
  obtain ⟨_, _, rfl⟩ := h
  rfl

theorem Alike.knowsFutureWrite (h : k.Alike k') : k'.knowsFutureWrite = k.knowsFutureWrite := by
  obtain ⟨_, _, rfl⟩ := h
  rfl

theorem Alike.forget (h : k.Alike k') (d : Descriptor) : (k.forget d).Alike (k'.forget d) := by
  obtain ⟨_, _, rfl⟩ := h
  unfold Kernel.forget
  split
  · exact ⟨_, _, rfl⟩
  · exact ⟨_, _, rfl⟩

section Invoke

variable {call : Call} {answer : Kernel → Except Errno (α × Kernel)} {a : α}

theorem invoke_none (h : invoke call answer k = (none, k')) : k.Alike k' := by
  unfold invoke at h
  cases hplan : k.refusal k.history call with
  | some e =>
    rw [hplan] at h
    cases h
    exact ⟨_, _, rfl⟩
  | none =>
    rw [hplan] at h
    cases hanswer : answer k with
    | error e =>
      rw [hanswer] at h
      cases h
      exact ⟨_, _, rfl⟩
    | ok result =>
      rw [hanswer] at h
      cases h

theorem invoke_some (h : invoke call answer k = (some a, k')) :
    ∃ k₁, answer k = .ok (a, k₁) ∧ k₁.Alike k' := by
  unfold invoke at h
  cases hplan : k.refusal k.history call with
  | some e =>
    rw [hplan] at h
    cases h
  | none =>
    rw [hplan] at h
    cases hanswer : answer k with
    | error e =>
      rw [hanswer] at h
      cases h
    | ok result =>
      rw [hanswer] at h
      cases h
      exact ⟨result.2, rfl, ⟨_, _, rfl⟩⟩

/-- The kernel turns no call down for reasons of its own. -/
def Obliging (k : Kernel) : Prop := ∀ history call, k.refusal history call = none

theorem Alike.obliging (h : k.Alike k') (ho : k.Obliging) : k'.Obliging := by
  obtain ⟨_, _, rfl⟩ := h
  exact ho

/-- The kernel answers every question about a descriptor. -/
structure Candid (k : Kernel) : Prop where
  access : ∀ history d, k.refusal history (.queryAccess d) = none
  seals : ∀ history d, k.refusal history (.querySeals d) = none
  length : ∀ history d, k.refusal history (.queryLength d) = none

theorem Obliging.candid (ho : k.Obliging) : k.Candid :=
  ⟨fun _ _ => ho _ _, fun _ _ => ho _ _, fun _ _ => ho _ _⟩

theorem Alike.candid (h : k.Alike k') (hc : k.Candid) : k'.Candid := by
  obtain ⟨_, _, rfl⟩ := h
  exact ⟨hc.access, hc.seals, hc.length⟩

private theorem invoke_answered (hplan : k.refusal k.history call = none)
    (hanswer : answer k = .ok (a, k₁)) :
    ∃ k', invoke call answer k = (some a, k') ∧ k₁.Alike k' :=
  ⟨{ k₁ with history := ⟨call, none⟩ :: k₁.history },
    by simp only [invoke, hplan, hanswer], ⟨_, _, rfl⟩⟩

private theorem invoke_failed (hplan : k.refusal k.history call = none) {e : Errno}
    (hanswer : answer k = .error e) :
    ∃ k', invoke call answer k = (none, k') ∧ k.Alike k' ∧ k'.lastError = e :=
  ⟨{ k with lastError := e, history := ⟨call, some e⟩ :: k.history },
    by simp only [invoke, hplan, hanswer], ⟨_, _, rfl⟩, rfl⟩

theorem invoke_of_answer (ho : k.Obliging) (hanswer : answer k = .ok (a, k₁)) :
    ∃ k', invoke call answer k = (some a, k') ∧ k₁.Alike k' :=
  invoke_answered (ho _ _) hanswer

theorem invoke_of_error (ho : k.Obliging) {e : Errno} (hanswer : answer k = .error e) :
    ∃ k', invoke call answer k = (none, k') ∧ k.Alike k' ∧ k'.lastError = e :=
  invoke_failed (ho _ _) hanswer

theorem invoke_none_history (h : invoke call answer k = (none, k')) :
    k'.history = ⟨call, some k'.lastError⟩ :: k.history := by
  unfold invoke at h
  dsimp only at h
  split at h
  · cases h
    rfl
  · cases h

theorem invoke_some_history (h : invoke call answer k = (some a, k')) :
    ∃ k₁, answer k = .ok (a, k₁) ∧ k'.history = ⟨call, none⟩ :: k₁.history := by
  obtain ⟨k₁, hanswer, -⟩ := invoke_some h
  have hplan : k.refusal k.history call = none := by
    cases hplan : k.refusal k.history call with
    | none => rfl
    | some e =>
      simp only [invoke, hplan] at h
      cases h
  simp only [invoke, hplan, hanswer] at h
  cases h
  exact ⟨k₁, hanswer, rfl⟩

private theorem answer_of_invoke_none (hplan : k.refusal k.history call = none)
    (h : invoke call answer k = (none, k')) : ∃ e, answer k = .error e := by
  cases hanswer : answer k with
  | error e => exact ⟨e, rfl⟩
  | ok result =>
    simp only [invoke, hplan, hanswer] at h
    cases h

/-- What holds after a call: its answer's state, or the state before, up to the error cell. -/
theorem invoke_cases (call : Call) (answer : Kernel → Except Errno (α × Kernel)) (k : Kernel) :
    k.Alike (invoke call answer k).2 ∨
      ∃ a k₁, answer k = .ok (a, k₁) ∧ k₁.Alike (invoke call answer k).2 := by
  cases h : invoke call answer k with
  | mk outcome k' =>
    cases outcome with
    | none => exact .inl (invoke_none h)
    | some a =>
      obtain ⟨k₁, hanswer, hk⟩ := invoke_some h
      exact .inr ⟨a, k₁, hanswer, hk⟩

end Invoke

section Descriptors

theorem fileId?_forget (k : Kernel) (d e : Descriptor) :
    (k.forget d).fileId? e = if e = d then none else k.fileId? e := by
  obtain ⟨n⟩ := d
  obtain ⟨m⟩ := e
  cases n with
  | negSucc n =>
    cases m with
    | negSucc m => simp [fileId?]
    | ofNat m => simp [forget]
  | ofNat n =>
    cases m with
    | negSucc m => simp [fileId?]
    | ofNat m =>
      have hnumber : (⟨.ofNat m⟩ : Descriptor) = ⟨.ofNat n⟩ ↔ m = n := by
        simp only [Descriptor.mk.injEq, Int.ofNat.injEq]
      simp only [forget, fileId?, Registry.get?_erase, hnumber]

theorem files_forget (k : Kernel) (d : Descriptor) : (k.forget d).files = k.files := by
  unfold forget
  split
  · rfl
  · rfl

theorem file?_forget_ne {d e : Descriptor} (hne : e ≠ d) (k : Kernel) :
    (k.forget d).file? e = k.file? e := by
  rw [file?, file?, fileId?_forget, if_neg hne, files_forget]

theorem object_forget (k : Kernel) (d : Descriptor) (id : ObjectId) :
    (k.forget d).object id = k.object id := by
  unfold forget
  split
  · rfl
  · rfl

theorem objects_forget (k : Kernel) (d : Descriptor) : (k.forget d).objects = k.objects := by
  unfold forget
  split
  · rfl
  · rfl

/-- A new descriptor of an open file: a number that was vacant, and no other changes. -/
structure Installs (d : Descriptor) (id : FileId) (k k' : Kernel) : Prop where
  vacant : k.fileId? d = none
  fileId? : ∀ e, k'.fileId? e = if e = d then some id else k.fileId? e
  rest : ∃ descriptors, k' = { k with descriptors }

theorem Installs.files {id : FileId} (h : Installs d id k k') : k'.files = k.files := by
  obtain ⟨_, rfl⟩ := h.rest
  rfl

theorem Installs.objects {id : FileId} (h : Installs d id k k') : k'.objects = k.objects := by
  obtain ⟨_, rfl⟩ := h.rest
  rfl

theorem Installs.names {id : FileId} (h : Installs d id k k') : k'.names = k.names := by
  obtain ⟨_, rfl⟩ := h.rest
  rfl

theorem install_ok {id : FileId} (h : install id k = .ok (d, k')) : Installs d id k k' := by
  unfold install at h
  split at h
  · cases h
  · cases h
    refine ⟨k.descriptors.get?_free, fun e => ?_, _, rfl⟩
    obtain ⟨m⟩ := e
    cases m with
    | negSucc m => simp [fileId?]
    | ofNat m =>
      have hnumber : (⟨.ofNat m⟩ : Descriptor) = ⟨(k.descriptors.free : Int)⟩ ↔
          m = k.descriptors.free :=
        ⟨fun h => Int.ofNat.inj (congrArg Descriptor.number h), fun h => by rw [h]; rfl⟩
      simp only [hnumber]
      exact k.descriptors.get?_insert id m

theorem Installs.file? {id : FileId} (h : Installs d id k k') : k'.file? d = k.files[id]? := by
  simp only [Kernel.file?, h.fileId?, if_pos, Option.bind_some, h.files]

theorem openObject_ok {object : ObjectId} {access : Access}
    (h : openObject object access k = .ok (d, k')) :
    Installs d k.files.length { k with files := k.files ++ [⟨object, access⟩] } k' :=
  install_ok h

end Descriptors

section Making

theorem createMemory_some {sealing : Bool} (h : createMemory sealing k = (some d, k')) :
    ∃ k₁, Installs d k.files.length
        { k with
          objects := k.objects ++ [.memory sealing],
          files := k.files ++ [⟨k.objects.length, .readWrite⟩] } k₁ ∧
      k₁.Alike k' := by
  obtain ⟨k₁, hanswer, hk⟩ := invoke_some h
  exact ⟨k₁, install_ok hanswer, hk⟩

theorem createShared_some {name : String} (h : createShared name k = (some d, k')) :
    ∃ k₁, Installs d k.files.length
        { k with
          objects := k.objects ++ [.memory false],
          files := k.files ++ [⟨k.objects.length, .readWrite⟩],
          names := (name, k.objects.length) :: k.names } k₁ ∧
      k₁.Alike k' := by
  obtain ⟨k₁, hanswer, hk⟩ := invoke_some h
  refine ⟨k₁, ?_, hk⟩
  simp only [bind, Except.bind, throw, throwThe, MonadExceptOf.throw] at hanswer
  split at hanswer
  · cases hanswer
  · split at hanswer
    · cases hanswer
    · exact install_ok hanswer

theorem openShared_some {name : String} (h : openShared name k = (some d, k')) :
    ∃ object k₁, k.names.lookup name = some object ∧
      Installs d k.files.length { k with files := k.files ++ [⟨object, .read⟩] } k₁ ∧
      k₁.Alike k' := by
  obtain ⟨k₁, hanswer, hk⟩ := invoke_some h
  simp only [bind, Except.bind, throw, throwThe, MonadExceptOf.throw] at hanswer
  split at hanswer
  · cases hanswer
  · cases hname : k.names.lookup name with
    | none =>
      rw [hname] at hanswer
      cases hanswer
    | some object =>
      rw [hname] at hanswer
      exact ⟨object, k₁, rfl, install_ok hanswer, hk⟩

theorem duplicate_some (h : duplicate d k = (some e, k')) :
    ∃ id k₁, k.fileId? d = some id ∧ Installs e id k k₁ ∧ k₁.Alike k' := by
  obtain ⟨k₁, hanswer, hk⟩ := invoke_some h
  cases hid : k.fileId? d with
  | none =>
    simp only [hid] at hanswer
    cases hanswer
  | some id =>
    simp only [hid] at hanswer
    exact ⟨id, k₁, rfl, install_ok hanswer, hk⟩

/-- Where there is neither a plan nor a limit, every open descriptor can be duplicated. -/
theorem duplicate_of_fileId? (ho : k.Obliging) (hlimit : k.limit = none) {id : FileId}
    (hid : k.fileId? d = some id) :
    ∃ e k', duplicate d k = (some e, k') ∧ k'.Obliging ∧ k'.limit = none := by
  have hroom : k.atLimit = false := by
    rw [atLimit, hlimit]
    rfl
  have hanswer : install id k = .ok (⟨k.descriptors.free⟩,
      { k with descriptors := (k.descriptors.insert id).2 }) := by
    rw [install, hroom]
    rfl
  obtain ⟨k', hcall, hk⟩ : ∃ k', duplicate d k = (some _, k') ∧ Alike _ k' :=
    invoke_of_answer ho (by simp only [hid]; exact hanswer)
  refine ⟨_, k', hcall, hk.obliging ho, ?_⟩
  obtain ⟨_, _, rfl⟩ := hk
  exact hlimit

/-- Removing a name leaves everything but the names as it was. -/
theorem unlinkShared_alike (name : String) (k : Kernel) :
    ∃ names, ({ k with names } : Kernel).Alike (unlinkShared name k).2 := by
  rcases invoke_cases (.unlinkShared name) _ k with h | ⟨_, k₁, hanswer, hk⟩
  · exact ⟨k.names, h⟩
  · split at hanswer
    · cases hanswer
      exact ⟨_, hk⟩
    · cases hanswer

theorem close_alike (d : Descriptor) (k : Kernel) : (k.forget d).Alike (close d k).2 := by
  refine Alike.forget ?_ d
  rcases invoke_cases (.close d) _ k with h | ⟨_, k₁, hanswer, hk⟩
  · exact h
  · unfold onFile at hanswer
    split at hanswer
    · cases hanswer
    · cases hanswer
      exact hk

end Making

section Files

theorem onFile_ok {answer : OpenFile → Kernel → Except Errno α} {a : α}
    (h : onFile d answer k = .ok a) : ∃ file, k.file? d = some file ∧ answer file k = .ok a := by
  unfold onFile at h
  split at h
  · cases h
  · rename_i file hfile
    exact ⟨file, hfile, h⟩

theorem onFile_of_file? {answer : OpenFile → Kernel → Except Errno α} {file : OpenFile}
    (h : k.file? d = some file) : onFile d answer k = answer file k := by
  simp only [onFile, h]

/-- What a call answers that only looks at a value. The value is reported unless the kernel turns
the call down. -/
structure Reports (k : Kernel) (value : Option α) (result : Option α × Kernel) : Prop where
  alike : k.Alike result.2
  value_of_some : ∀ a, result.1 = some a → value = some a
  none_of_none : k.Candid → result.1 = none → value = none

private theorem reports_of_look {call : Call}
    {answer : OpenFile → Kernel → Except Errno (α × Kernel)} {value : OpenFile → Option α}
    (plan : k.Candid → k.refusal k.history call = none)
    (ok : ∀ {file a k₁}, answer file k = .ok (a, k₁) → k₁ = k ∧ value file = some a)
    (error : ∀ {file e}, answer file k = .error e → value file = none) :
    k.Reports ((k.file? d).bind value) (invoke call (onFile d answer) k) := by
  cases h : invoke call (onFile d answer) k with
  | mk outcome k' =>
    cases outcome with
    | none =>
      refine ⟨invoke_none h, nofun, fun hc _ => ?_⟩
      obtain ⟨e, hanswer⟩ := answer_of_invoke_none (plan hc) h
      cases hfile : k.file? d with
      | none => rfl
      | some file =>
        rw [onFile_of_file? hfile] at hanswer
        exact error hanswer
    | some a =>
      obtain ⟨k₁, hanswer, hk⟩ := invoke_some h
      obtain ⟨file, hfile, hanswer⟩ := onFile_ok hanswer
      obtain ⟨rfl, hvalue⟩ := ok hanswer
      refine ⟨hk, fun b hb => ?_, nofun⟩
      cases hb
      rw [hfile, Option.bind_some, hvalue]

/-- The object that a descriptor refers to. -/
def objectOf? (k : Kernel) (d : Descriptor) : Option ObjectId := (k.file? d).map (·.object)

/-- The access that a descriptor was opened for. -/
def accessOf? (k : Kernel) (d : Descriptor) : Option Access :=
  (k.file? d).bind fun file => some file.access

/-- The length of what a descriptor refers to. -/
def lengthOf? (k : Kernel) (d : Descriptor) : Option Nat :=
  (k.file? d).bind fun file => some (k.object file.object).length

/-- The seals of the memory object that a descriptor refers to. -/
def sealsOf? (k : Kernel) (d : Descriptor) : Option Seals :=
  (k.file? d).bind fun file =>
    if (k.object file.object).kind = .pipe then none else some (k.object file.object).seals

theorem file?_of_lengthOf? {n : Nat} (h : k.lengthOf? d = some n) :
    ∃ file, k.file? d = some file ∧ (k.object file.object).length = n := by
  obtain ⟨file, hfile, hlength⟩ := Option.bind_eq_some_iff.mp h
  exact ⟨file, hfile, Option.some.inj hlength⟩

theorem memory_of_sealsOf? {file : OpenFile} {seals : Seals} (hfile : k.file? d = some file)
    (h : k.sealsOf? d = some seals) :
    (k.object file.object).kind = .memory ∧ (k.object file.object).seals = seals := by
  rw [sealsOf?, hfile, Option.bind_some] at h
  split at h
  · cases h
  · rename_i hkind
    refine ⟨?_, Option.some.inj h⟩
    cases hobject : (k.object file.object).kind with
    | memory => rfl
    | pipe => exact absurd hobject hkind

theorem Alike.accessOf? (h : k.Alike k') (d : Descriptor) : k'.accessOf? d = k.accessOf? d := by
  obtain ⟨_, _, rfl⟩ := h
  rfl

theorem Alike.lengthOf? (h : k.Alike k') (d : Descriptor) : k'.lengthOf? d = k.lengthOf? d := by
  obtain ⟨_, _, rfl⟩ := h
  rfl

theorem Alike.sealsOf? (h : k.Alike k') (d : Descriptor) : k'.sealsOf? d = k.sealsOf? d := by
  obtain ⟨_, _, rfl⟩ := h
  rfl

theorem queryAccess_reports (d : Descriptor) (k : Kernel) :
    k.Reports (k.accessOf? d) (queryAccess d k) :=
  reports_of_look (fun hc => hc.access _ _) (fun h => by cases h; exact ⟨rfl, rfl⟩)
    fun h => by cases h

theorem queryLength_reports (d : Descriptor) (k : Kernel) :
    k.Reports (k.lengthOf? d) (queryLength d k) :=
  reports_of_look (fun hc => hc.length _ _) (fun h => by cases h; exact ⟨rfl, rfl⟩)
    fun h => by cases h

theorem querySeals_reports (d : Descriptor) (k : Kernel) :
    k.Reports (k.sealsOf? d) (querySeals d k) := by
  refine reports_of_look (fun hc => hc.seals _ _) (fun {file a k₁} h => ?_) fun {file e} h => ?_
  · dsimp only at h ⊢
    split at h
    · cases h
    · rename_i hkind
      cases h
      exact ⟨rfl, if_neg hkind⟩
  · dsimp only at h ⊢
    split at h
    · rename_i hkind
      exact if_pos hkind
    · cases h

theorem markCloseOnExec_alike (d : Descriptor) (k : Kernel) :
    k.Alike (markCloseOnExec d k).2 := by
  rcases invoke_cases (.markCloseOnExec d) _ k with h | ⟨_, k₁, hanswer, hk⟩
  · exact h
  · obtain ⟨_, _, hanswer⟩ := onFile_ok hanswer
    cases hanswer
    exact hk

theorem compareFiles_alike (d e : Descriptor) (k : Kernel) : k.Alike (compareFiles d e k).2 := by
  rcases invoke_cases (.compareFiles d e) _ k with h | ⟨_, k₁, hanswer, hk⟩
  · exact h
  · split at hanswer
    · cases hanswer
      exact hk
    · cases hanswer

theorem compareFiles_of_open {d e : Descriptor} {f g : FileId}
    (hplan : k.refusal k.history (.compareFiles d e) = none) (hd : k.fileId? d = some f)
    (he : k.fileId? e = some g) : ∃ k', compareFiles d e k = (some (f == g), k') := by
  unfold compareFiles invoke
  rw [hplan]
  dsimp only
  rw [hd, he]
  exact ⟨_, rfl⟩

/-- A new length is set through a descriptor for writing, as far as the seals allow it. -/
theorem setLength_some {length : Int} (h : setLength d length k = (some (), k')) :
    ∃ (n : Nat) (file : OpenFile), length = n ∧ k.file? d = some file ∧
      file.access.canWrite = true ∧ (k.object file.object).kind = .memory ∧
      ((k.object file.object).seals.shrink = true → (k.object file.object).length ≤ n) ∧
      ((k.object file.object).seals.grow = true → n ≤ (k.object file.object).length) ∧
      (k.modifyObject file.object (·.resize n)).Alike k' := by
  obtain ⟨k₁, hanswer, hk⟩ := invoke_some h
  cases length with
  | negSucc n => cases hanswer
  | ofNat n =>
    obtain ⟨file, hfile, hanswer⟩ := onFile_ok hanswer
    dsimp only at hanswer
    split at hanswer
    · cases hanswer
    · rename_i hkind
      split at hanswer
      · cases hanswer
      · rename_i hshrink
        split at hanswer
        · cases hanswer
        · rename_i hgrow
          cases hanswer
          rw [not_or, Decidable.not_not] at hkind
          refine ⟨n, file, rfl, hfile, hkind.2, ?_, fun hs => ?_, fun hg => ?_, hk⟩
          · cases hobject : (k.object file.object).kind with
            | memory => rfl
            | pipe => exact absurd hobject hkind.1
          · exact Nat.le_of_not_lt fun hlt => hshrink ⟨hlt, hs⟩
          · exact Nat.le_of_not_lt fun hlt => hgrow ⟨hlt, hg⟩

theorem setLength_of_file? (ho : k.Obliging) {file : OpenFile} {n : Nat}
    (hfile : k.file? d = some file) (haccess : file.access.canWrite = true)
    (hkind : (k.object file.object).kind = .memory)
    (hshrink : n < (k.object file.object).length → (k.object file.object).seals.shrink = false)
    (hgrow : (k.object file.object).length < n → (k.object file.object).seals.grow = false) :
    ∃ k', setLength d n k = (some (), k') ∧ (k.modifyObject file.object (·.resize n)).Alike k' := by
  have hopen : ¬ ((k.object file.object).kind = .pipe ∨ ¬ file.access.canWrite = true) := by
    rw [hkind]
    exact fun h => h.elim nofun fun h => h haccess
  have hcut : ¬ (n < (k.object file.object).length ∧
      (k.object file.object).seals.shrink = true) := fun h =>
    nomatch h.2.symm.trans (hshrink h.1)
  have hextended : ¬ ((k.object file.object).length < n ∧
      (k.object file.object).seals.grow = true) := fun h =>
    nomatch h.2.symm.trans (hgrow h.1)
  refine invoke_of_answer ho ((onFile_of_file? hfile).trans ?_)
  dsimp only
  rw [if_neg hopen, if_neg hcut, if_neg hextended]

private theorem room_le (k : Kernel) (o : Object) (position count : Nat) :
    k.room o position count ≤ count := by
  unfold room
  split
  · have hle := Nat.div_mul_le_self o.length k.pageSize
    omega
  · exact Nat.le_refl count

private theorem reach_le_of_grow {o : Object} {position count : Nat} (hgrow : o.seals.grow = true)
    (hpos : k.room o position count ≠ 0) : position + k.room o position count ≤ o.length := by
  unfold room at hpos ⊢
  split at hpos
  · rename_i hbeyond
    rw [if_pos hbeyond]
    have hle := Nat.div_mul_le_self o.length k.pageSize
    omega
  · rename_i hbeyond
    rw [if_neg hbeyond]
    exact Nat.le_of_not_lt fun hlt => hbeyond ⟨hlt, hgrow⟩

/-- A write to a memory object needs an object that refuses neither it nor the length it takes. -/
theorem writeAt_some {position count : Nat} {data : List UInt8}
    (h : writeAt d position data k = (some count, k')) :
    ∃ file, k.file? d = some file ∧
      (k.Alike k' ∨ ∃ written, written.length = count ∧
        (k.object file.object).seals.blocksWrites = false ∧
        ((k.object file.object).length < position + written.length →
          (k.object file.object).seals.grow = false) ∧
        (k.modifyObject file.object fun _ =>
          (if (k.object file.object).length < position + written.length then
            (k.object file.object).resize (position + written.length)
          else k.object file.object).overwrite position written).Alike k') := by
  obtain ⟨k₁, hanswer, hk⟩ := invoke_some h
  obtain ⟨file, hfile, hanswer⟩ := onFile_ok hanswer
  refine ⟨file, hfile, ?_⟩
  dsimp only at hanswer
  split at hanswer
  · cases hanswer
  · split at hanswer
    · cases hanswer
      exact .inl hk
    · split at hanswer
      · cases hanswer
      · rename_i hrefuses
        cases hanswer
        rw [not_or] at hrefuses
        have hlength := List.length_take_of_le
          (k.room_le (k.object file.object) position data.length)
        refine .inr ⟨_, hlength, Bool.eq_false_iff.mpr hrefuses.1, fun hlt => ?_, ?_⟩
        · rw [hlength] at hlt
          exact Bool.eq_false_iff.mpr fun hgrow =>
            Nat.not_lt.mpr (reach_le_of_grow hgrow hrefuses.2) hlt
        · rw [hlength]
          exact hk

/-- Seals are added through a descriptor for writing while the seal set is open. -/
theorem addSeals_some {mask : Nat} (h : addSeals d mask k = (some (), k')) :
    ∃ file asked, k.file? d = some file ∧ file.access.canWrite = true ∧
      k.knownSeals? mask = some asked ∧ (k.object file.object).kind = .memory ∧
      (k.object file.object).seals.closed = false ∧
      (asked.withImplied.write = true → k.hasWritableMapping file.object = false) ∧
      (k.modifyObject file.object (·.withSeals asked.withImplied)).Alike k' := by
  obtain ⟨k₁, hanswer, hk⟩ := invoke_some h
  obtain ⟨file, hfile, hanswer⟩ := onFile_ok hanswer
  dsimp only at hanswer
  split at hanswer
  · cases hanswer
  · rename_i haccess
    cases hknown : k.knownSeals? mask with
    | none =>
      rw [hknown] at hanswer
      cases hanswer
    | some asked =>
      rw [hknown] at hanswer
      dsimp only at hanswer
      split at hanswer
      · cases hanswer
      · rename_i hkind
        split at hanswer
        · cases hanswer
        · rename_i hclosed
          split at hanswer
          · cases hanswer
          · rename_i hbusy
            cases hanswer
            refine ⟨file, asked, hfile, Decidable.not_not.mp haccess, rfl, ?_,
              Bool.eq_false_iff.mpr hclosed, fun hw => ?_, hk⟩
            · cases hobject : (k.object file.object).kind with
              | memory => rfl
              | pipe => exact absurd hobject hkind
            · exact Bool.eq_false_iff.mpr fun hmapped => hbusy ⟨hw, hmapped⟩

theorem addSeals_history {mask : Nat} (h : addSeals d mask k = (some (), k')) :
    k'.history = ⟨.addSeals d mask, none⟩ :: k.history := by
  obtain ⟨k₁, hanswer, hhistory⟩ := invoke_some_history h
  obtain ⟨file, -, hanswer⟩ := onFile_ok hanswer
  dsimp only at hanswer
  split at hanswer
  · cases hanswer
  · split at hanswer
    · cases hanswer
    · split at hanswer
      · cases hanswer
      · split at hanswer
        · cases hanswer
        · split at hanswer
          · cases hanswer
          · cases hanswer
            exact hhistory

private theorem knownSeals?_eq_some_iff {s asked : Seals} :
    k.knownSeals? s.mask = some asked ↔
      asked = s ∧ (s.futureWrite = true → k.knowsFutureWrite = true) := by
  rw [knownSeals?, Seals.ofMask?_mask, Option.filter_eq_some_iff]
  constructor
  · rintro ⟨hs, hknown⟩
    obtain rfl := Option.some.inj hs
    refine ⟨rfl, fun hf => ?_⟩
    simpa only [hf, Bool.not_true, Bool.or_false] using hknown
  · rintro ⟨rfl, hknown⟩
    refine ⟨rfl, ?_⟩
    cases hf : asked.futureWrite with
    | false => simp only [Bool.not_false, Bool.or_true]
    | true => simp only [hknown hf, Bool.true_or]

/-- What the kernel asks of a descriptor, of its object and of seals that are to be added. -/
structure Accepts (k : Kernel) (d : Descriptor) (asked : Seals) (file : OpenFile) : Prop where
  file? : k.file? d = some file
  access : file.access.canWrite = true
  kind : (k.object file.object).kind = .memory
  opened : (k.object file.object).seals.closed = false
  known : asked.futureWrite = true → k.knowsFutureWrite = true
  idle : asked.write = true → k.hasWritableMapping file.object = false

theorem Alike.accepts_iff (h : k.Alike k') {asked : Seals} {file : OpenFile} :
    k'.Accepts d asked file ↔ k.Accepts d asked file := by
  obtain ⟨_, _, rfl⟩ := h
  exact ⟨fun ha => ⟨ha.file?, ha.access, ha.kind, ha.opened, ha.known, ha.idle⟩,
    fun ha => ⟨ha.file?, ha.access, ha.kind, ha.opened, ha.known, ha.idle⟩⟩

section

variable {asked : Seals} {file : OpenFile} (hexecute : asked.execute = false)
include hexecute

private theorem withImplied_eq : asked.withImplied = asked := by
  rw [Seals.withImplied, hexecute]
  rfl

theorem accepts_of_addSeals (h : addSeals d asked.mask k = (some (), k')) :
    ∃ file, k.Accepts d asked file ∧ (k.modifyObject file.object (·.withSeals asked)).Alike k' := by
  obtain ⟨file, s, hfile, haccess, hknown, hkind, hopened, hidle, hk'⟩ := addSeals_some h
  obtain ⟨rfl, hfuture⟩ := knownSeals?_eq_some_iff.mp hknown
  rw [withImplied_eq hexecute] at hidle hk'
  exact ⟨file, ⟨hfile, haccess, hkind, hopened, hfuture, hidle⟩, hk'⟩

theorem Accepts.addSeals (ha : k.Accepts d asked file)
    (hplan : k.refusal k.history (.addSeals d asked.mask) = none) :
    ∃ k', Kernel.addSeals d asked.mask k = (some (), k') ∧
      (k.modifyObject file.object (·.withSeals asked)).Alike k' := by
  have hknown : k.knownSeals? asked.mask = some asked :=
    knownSeals?_eq_some_iff.mpr ⟨rfl, ha.known⟩
  have hbusy : ¬ (asked.write = true ∧ k.hasWritableMapping file.object = true) := by
    rintro ⟨hw, hmapped⟩
    rw [ha.idle hw] at hmapped
    cases hmapped
  refine invoke_answered hplan ((onFile_of_file? ha.file?).trans ?_)
  simp only [ha.access, hknown, withImplied_eq hexecute, ha.kind, ha.opened, if_neg hbusy,
    not_true_eq_false, reduceCtorEq, Bool.false_eq_true, if_false]
  rfl

end

/-- A kernel that does not know the seal against future writable mappings says so to those who may
add seals. -/
theorem addSeals_unknown (asked : Seals) {file : OpenFile}
    (hplan : k.refusal k.history (.addSeals d asked.mask) = none) (hfile : k.file? d = some file)
    (haccess : file.access.canWrite = true) (hfuture : asked.futureWrite = true)
    (hunknown : k.knowsFutureWrite = false) :
    ∃ k', addSeals d asked.mask k = (none, k') ∧ k.Alike k' ∧ k'.lastError = .invalidArgument := by
  have hknown : k.knownSeals? asked.mask = none := by
    rw [knownSeals?, Seals.ofMask?_mask, hunknown, Option.filter_some, hfuture]
    rfl
  refine invoke_failed hplan ((onFile_of_file? hfile).trans ?_)
  simp only [haccess, hknown, not_true_eq_false, if_false]

end Files

end SharedMemory.Kernel
