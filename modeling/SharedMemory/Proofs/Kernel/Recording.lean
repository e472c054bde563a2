import SharedMemory.Proofs.Kernel.Calls
/-!
# Calls on record

A system call puts itself on record, once and with its error if it failed, and nothing else is put
on record by it.
-/
namespace SharedMemory.Kernel

variable {α : Type} {k k' : Kernel} {d : Descriptor}

/-- What a way of calling puts on record. -/
def Records (c : Call) (call : Kernel → Option α × Kernel) : Prop :=
  ∀ k, (∀ a k', call k = (some a, k') → k'.history = ⟨c, none⟩ :: k.history) ∧
    ∀ k', call k = (none, k') → k'.history = ⟨c, some k'.lastError⟩ :: k.history

private theorem records_of_answer {c : Call} {answer : Kernel → Except Errno (α × Kernel)}
    (h : ∀ {k a k'}, answer k = .ok (a, k') → k'.history = k.history) :
    Records c (invoke c answer) := by
  intro k
  refine ⟨fun a k' hcall => ?_, fun k' hcall => invoke_none_history hcall⟩
  obtain ⟨k₁, hanswer, hhistory⟩ := invoke_some_history hcall
  rw [hhistory, h hanswer]

private theorem records_onFile {c : Call} {answer : OpenFile → Kernel → Except Errno (α × Kernel)}
    (h : ∀ {file k a k'}, answer file k = .ok (a, k') → k'.history = k.history) :
    Records c (invoke c (onFile d answer)) := by
  refine records_of_answer fun {k a k'} hanswer => ?_
  obtain ⟨file, -, hanswer⟩ := onFile_ok hanswer
  exact h hanswer

theorem Installs.history {id : FileId} (h : Installs d id k k') : k'.history = k.history := by
  obtain ⟨_, rfl⟩ := h.rest
  rfl

theorem createMemory_records (sealing : Bool) :
    Records (.createMemory sealing) (createMemory sealing) :=
  records_of_answer fun hanswer => (install_ok hanswer).history

theorem createShared_records (name : String) :
    Records (.createShared name) (createShared name) := by
  refine records_of_answer fun {k a k'} hanswer => ?_
  simp only [bind, Except.bind, throw, throwThe, MonadExceptOf.throw] at hanswer
  split at hanswer
  · cases hanswer
  · split at hanswer
    · cases hanswer
    · exact (install_ok hanswer).history

theorem openShared_records (name : String) : Records (.openShared name) (openShared name) := by
  refine records_of_answer fun {k a k'} hanswer => ?_
  simp only [bind, Except.bind, throw, throwThe, MonadExceptOf.throw] at hanswer
  split at hanswer
  · cases hanswer
  · split at hanswer
    · cases hanswer
    · exact (install_ok hanswer).history

theorem unlinkShared_records (name : String) :
    Records (.unlinkShared name) (unlinkShared name) := by
  refine records_of_answer fun {k a k'} hanswer => ?_
  split at hanswer
  · cases hanswer
    rfl
  · cases hanswer

theorem duplicate_records (d : Descriptor) : Records (.duplicate d) (duplicate d) := by
  refine records_of_answer fun {k a k'} hanswer => ?_
  split at hanswer
  · cases hanswer
  · exact (install_ok hanswer).history

theorem markCloseOnExec_records (d : Descriptor) :
    Records (.markCloseOnExec d) (markCloseOnExec d) := by
  refine records_onFile fun {file k a k'} hanswer => ?_
  cases hanswer
  rfl

private theorem history_forget (d : Descriptor) (k : Kernel) :
    (k.forget d).history = k.history := by
  unfold forget
  split
  · rfl
  · rfl

private theorem lastError_forget (d : Descriptor) (k : Kernel) :
    (k.forget d).lastError = k.lastError := by
  unfold forget
  split
  · rfl
  · rfl

theorem close_records (d : Descriptor) : Records (.close d) (close d) := by
  have hinvoke : Records (.close d) (invoke (.close d) (onFile d fun _ k => .ok ((), k))) := by
    refine records_onFile fun {file k a k'} hanswer => ?_
    cases hanswer
    rfl
  intro k
  obtain ⟨hsome, hnone⟩ := hinvoke k
  refine ⟨fun a k' hcall => ?_, fun k' hcall => ?_⟩
  · obtain ⟨hdone, rfl⟩ := Prod.mk.inj hcall
    rw [history_forget]
    exact hsome a _ (Prod.ext hdone rfl)
  · obtain ⟨hdone, rfl⟩ := Prod.mk.inj hcall
    rw [history_forget, lastError_forget]
    exact hnone _ (Prod.ext hdone rfl)

theorem setLength_records (d : Descriptor) (length : Int) :
    Records (.setLength d length) (setLength d length) := by
  refine records_of_answer fun {k a k'} hanswer => ?_
  cases length with
  | negSucc n => cases hanswer
  | ofNat n =>
    obtain ⟨file, -, hanswer⟩ := onFile_ok hanswer
    dsimp only at hanswer
    split at hanswer
    · cases hanswer
    · split at hanswer
      · cases hanswer
      · split at hanswer
        · cases hanswer
        · cases hanswer
          rfl

theorem addSeals_records (d : Descriptor) (mask : Nat) :
    Records (.addSeals d mask) (addSeals d mask) := fun _ =>
  ⟨fun _ _ hcall => addSeals_history hcall, fun _ hcall => invoke_none_history hcall⟩

theorem map_records (d : Descriptor) (offset length : Nat) (p : Protection) :
    Records (.map d offset length p) (map d offset length p) := by
  refine records_of_answer fun {k a k'} hanswer => ?_
  split at hanswer
  · cases hanswer
  · obtain ⟨file, -, hanswer⟩ := onFile_ok hanswer
    dsimp only at hanswer
    iterate 7
      split at hanswer
      · cases hanswer
    cases hanswer
    rfl

end SharedMemory.Kernel
