import SharedMemory.Proofs.Kernel.Operations
/-!
# Descriptors that are opened and closed

An account of descriptors. A call that opens descriptors hands them to its caller, and a caller
closes none but those it has. Two things follow: what a caller has is open, each descriptor once,
and all that is open besides was open before. So no descriptor is lost, and none is closed twice.
-/
namespace SharedMemory

namespace Registry

variable {α : Type}

/-- The numbers that have a value. -/
def numbers (r : Registry α) : List Nat :=
  (List.range r.entries.length).filter fun n => (r.get? n).isSome

private theorem mem_numbers (r : Registry α) (n : Nat) :
    n ∈ r.numbers ↔ ∃ a, r.get? n = some a := by
  rw [numbers, List.mem_filter, List.mem_range, ← Option.isSome_iff_exists]
  refine and_iff_right_of_imp fun h => ?_
  apply Nat.lt_of_not_le
  intro hle
  rw [get?, List.getElem?_eq_none hle] at h
  cases h

private theorem nodup_numbers (r : Registry α) : r.numbers.Nodup := List.nodup_range.filter _

private theorem length_numbers (r : Registry α) : r.numbers.length = r.count := by
  obtain ⟨entries⟩ := r
  simp only [numbers, count, values, get?]
  induction entries with
  | nil => rfl
  | cons e rest ih =>
    rw [List.length_cons, List.range_succ_eq_map, List.filter_cons, List.filter_map,
      List.filterMap_cons]
    have hrest : (fun n => ((e :: rest)[n]?.join).isSome) ∘ Nat.succ =
        fun n => (rest[n]?.join).isSome := rfl
    rw [hrest]
    cases e with
    | none => simpa using ih
    | some a => simpa using ih

end Registry

namespace Kernel

variable {k k₀ k₁ k' : Kernel} {d e : Descriptor} {ds ds₀ ds₁ ds' : List Descriptor}

/-- The operations that open no descriptor and close none. -/
def Operation.keepsDescriptors : Operation → Bool
  | .createMemory .. | .createShared .. | .openShared .. | .makePipe | .reopen .. | .duplicate ..
  | .close .. => false
  | _ => true

def Operation.closes : Operation → Bool
  | .close _ => true
  | _ => false

/-- The descriptors that an operation hands to its caller. -/
def Operation.opened (k : Kernel) : Operation → List Descriptor
  | .createMemory sealing => (Kernel.createMemory sealing k).1.toList
  | .createShared name => (Kernel.createShared name k).1.toList
  | .openShared name => (Kernel.openShared name k).1.toList
  | .reopen d access => (Kernel.reopen d access k).1.toList
  | .duplicate d => (Kernel.duplicate d k).1.toList
  | .makePipe => (Kernel.makePipe k).1.toList.flatMap fun ends => [ends.1, ends.2]
  | _ => []

/-- The operations that lead from `k` to another kernel, and what they make of the descriptors `ds`
that their caller has: it gets those that are opened, and it closes none but its own. -/
inductive Turnover (k : Kernel) (ds : List Descriptor) : Kernel → List Descriptor → Prop where
  | refl : Turnover k ds k ds
  | call {k₁ : Kernel} {ds₁ : List Descriptor} (op : Operation) (open_or_keep : op.closes = false) :
    Turnover k ds k₁ ds₁ → Turnover k ds (op.perform k₁) (op.opened k₁ ++ ds₁)
  | close {k₁ : Kernel} {ds₁ : List Descriptor} (d : Descriptor) :
    Turnover k ds k₁ (d :: ds₁) → Turnover k ds (Kernel.close d k₁).2 ds₁
  | perm {k₁ : Kernel} {ds₁ ds₂ : List Descriptor} :
    Turnover k ds k₁ ds₁ → ds₁.Perm ds₂ → Turnover k ds k₁ ds₂

namespace Turnover

/-- An operation that is not about the descriptors of its caller. -/
theorem keep (h : Turnover k₀ ds₀ k ds) {op : Operation} (hop : op.keepsDescriptors = true) :
    Turnover k₀ ds₀ (op.perform k) ds := by
  have hcall : ∀ op' : Operation, op'.closes = false → op'.opened k = [] →
      Turnover k₀ ds₀ (op'.perform k) ds := by
    intro op' hcloses hopened
    have h' := h.call op' hcloses
    rwa [hopened] at h'
  cases op with
  | createMemory | createShared | openShared | makePipe | reopen | duplicate | close => cases hop
  | _ => exact hcall _ rfl rfl

theorem opens (h : Turnover k₀ ds₀ k ds) {call : Kernel → Option Descriptor × Kernel}
    {op : Operation} (hcloses : op.closes = false) (hperform : op.perform k = (call k).2)
    (hopened : op.opened k = (call k).1.toList) :
    Turnover k₀ ds₀ (call k).2 ((call k).1.toList ++ ds) := by
  rw [← hperform, ← hopened]
  exact h.call op hcloses

end Turnover

/-- The number of a descriptor refers to something. -/
def InUse (k : Kernel) (d : Descriptor) : Prop := ∃ id, k.fileId? d = some id

/-- The descriptors that are open, each once. -/
structure Roster (k : Kernel) (ds : List Descriptor) : Prop where
  nodup : ds.Nodup
  mem_iff : ∀ d, d ∈ ds ↔ k.InUse d

/-- The open descriptors, lowest first. -/
def roster (k : Kernel) : List Descriptor :=
  k.descriptors.numbers.map fun n => ⟨Int.ofNat n⟩

theorem roster_roster (k : Kernel) : k.Roster k.roster := by
  have hinj : ∀ n m : Nat, n ≠ m → (⟨Int.ofNat n⟩ : Descriptor) ≠ ⟨Int.ofNat m⟩ :=
    fun n m hne h => hne (Int.ofNat.inj (Descriptor.mk.inj h))
  refine ⟨List.Pairwise.map _ hinj k.descriptors.nodup_numbers, fun d => ?_⟩
  obtain ⟨n⟩ := d
  rw [roster, List.mem_map]
  cases n with
  | negSucc n => simp [InUse, fileId?]
  | ofNat n =>
    constructor
    · rintro ⟨m, hm, heq⟩
      obtain rfl := Int.ofNat.inj (Descriptor.mk.inj heq)
      exact (k.descriptors.mem_numbers m).mp hm
    · intro h
      exact ⟨n, (k.descriptors.mem_numbers n).mpr h, rfl⟩

/-- A number that was vacant refers to something now, and all others are as they were. -/
def Opens (d : Descriptor) (k k' : Kernel) : Prop :=
  k.fileId? d = none ∧ ∃ id, ∀ e, k'.fileId? e = if e = d then some id else k.fileId? e

theorem Opens.alike (h : Opens d k k₁) (hk : k₁.Alike k') : Opens d k k' := by
  obtain ⟨hvacant, id, hid⟩ := h
  exact ⟨hvacant, id, fun e => (hk.fileId? e).trans (hid e)⟩

namespace Roster

theorem congr (h : Roster k ds) (hid : ∀ d, k'.fileId? d = k.fileId? d) : Roster k' ds :=
  ⟨h.nodup, fun d => by rw [h.mem_iff, InUse, InUse, hid]⟩

theorem alike (h : Roster k ds) (hk : k.Alike k') : Roster k' ds := h.congr hk.fileId?

theorem perm (h : Roster k ds) (hp : ds.Perm ds') : Roster k ds' :=
  ⟨hp.nodup_iff.mp h.nodup, fun d => by rw [← hp.mem_iff, h.mem_iff]⟩

theorem openCount (h : Roster k ds) : k.openCount = ds.length := by
  have hperm : ds.Perm k.roster :=
    (List.perm_ext_iff_of_nodup h.nodup k.roster_roster.nodup).mpr fun d => by
      rw [h.mem_iff, k.roster_roster.mem_iff]
  rw [hperm.length_eq, roster, List.length_map, Registry.length_numbers]
  rfl

theorem opens (h : Roster k ds) (ho : Opens d k k') : Roster k' (d :: ds) := by
  obtain ⟨hvacant, id, hid⟩ := ho
  refine ⟨List.nodup_cons.mpr ⟨fun hd => ?_, h.nodup⟩, fun e => ?_⟩
  · obtain ⟨id', hid'⟩ := (h.mem_iff d).mp hd
    rw [hvacant] at hid'
    cases hid'
  · rw [List.mem_cons, h.mem_iff, InUse, InUse, hid]
    by_cases he : e = d
    · simp [he]
    · simp [he]

theorem forget (h : Roster k (d :: ds)) : Roster (k.forget d) ds := by
  obtain ⟨hd, hds⟩ := List.nodup_cons.mp h.nodup
  refine ⟨hds, fun e => ?_⟩
  have hmem := h.mem_iff e
  rw [List.mem_cons] at hmem
  rw [InUse, fileId?_forget]
  by_cases he : e = d
  · subst he
    simp [hd]
  · rw [if_neg he]
    simpa [he, InUse] using hmem

/-- A call that answers with the descriptor that it opens, if it opens one. -/
theorem of_call {call : Kernel → Option Descriptor × Kernel} (h : Roster k ds)
    (some : ∀ d k', call k = (some d, k') → Opens d k k')
    (none : ∀ k', call k = (none, k') → k.Alike k') :
    Roster (call k).2 ((call k).1.toList ++ ds) := by
  cases hcall : call k with
  | mk outcome k' =>
    cases outcome with
    | none => exact h.alike (none k' hcall)
    | some d => exact h.opens (some d k' hcall)

end Roster

private theorem reopen_some {access : Access} (h : reopen d access k = (some e, k')) :
    Opens e k k' := by
  obtain ⟨k₁, hanswer, hk⟩ := invoke_some h
  split at hanswer
  · cases hanswer
  · have hinstall := openObject_ok hanswer
    exact Opens.alike ⟨hinstall.vacant, _, hinstall.fileId?⟩ hk

private theorem makePipe_some (h : makePipe k = (some (d, e), k')) :
    ∃ k₁, Opens d k k₁ ∧ Opens e k₁ k' := by
  obtain ⟨k₂, hanswer, hk⟩ := invoke_some h
  simp only [bind, Except.bind, pure, Except.pure] at hanswer
  split at hanswer
  · cases hanswer
  · rename_i hreader
    split at hanswer
    · cases hanswer
    · rename_i hwriter
      cases hanswer
      have hfirst := openObject_ok hreader
      have hsecond := openObject_ok hwriter
      exact ⟨_, ⟨hfirst.vacant, _, hfirst.fileId?⟩,
        Opens.alike ⟨hsecond.vacant, _, hsecond.fileId?⟩ hk⟩

/-- All descriptors and open files are the same, and there are as many objects. -/
structure SameFiles (k k' : Kernel) : Prop where
  fileId? (d : Descriptor) : k'.fileId? d = k.fileId? d
  files : k'.files = k.files
  objects : k'.objects.length = k.objects.length

theorem SameFiles.alike (h : SameFiles k k₁) (hk : k₁.Alike k') : SameFiles k k' := by
  obtain ⟨_, _, rfl⟩ := hk
  exact ⟨h.fileId?, h.files, h.objects⟩

theorem Alike.sameFiles (h : k.Alike k') : SameFiles k k' :=
  SameFiles.alike ⟨fun _ => rfl, rfl, rfl⟩ h

theorem Modifies.sameFiles {op : Operation} (h : Modifies k op k') : SameFiles k k' := by
  rcases h with ⟨_, _, rfl⟩ | ⟨_, _, _, _, _, rfl⟩
  · exact ⟨fun _ => rfl, rfl, rfl⟩
  · exact ⟨fun _ => rfl, rfl, List.length_modify _ _ _⟩

/-- Every other operation leaves the descriptors as they are. -/
theorem perform_sameFiles {op : Operation} (hop : op.keepsDescriptors = true) (k : Kernel) :
    SameFiles k (op.perform k) := by
  cases op with
  | createMemory | createShared | openShared | makePipe | reopen | duplicate | close => cases hop
  | unlinkShared name =>
    obtain ⟨names, hk⟩ := unlinkShared_alike name k
    have hnames : SameFiles k { k with names } := ⟨fun _ => rfl, rfl, rfl⟩
    exact hnames.alike hk
  | markCloseOnExec e => exact (markCloseOnExec_alike e k).sameFiles
  | setLength e length => exact (setLength_modifies e length k).sameFiles
  | writeAt e position data => exact (writeAt_modifies e position data k).sameFiles
  | queryAccess e => exact (queryAccess_reports e k).alike.sameFiles
  | queryLength e => exact (queryLength_reports e k).alike.sameFiles
  | querySeals e => exact (querySeals_reports e k).alike.sameFiles
  | addSeals e mask => exact (addSeals_modifies e mask k).sameFiles
  | compareFiles a b => exact (compareFiles_alike a b k).sameFiles
  | map e offset length p =>
    obtain ⟨mappings, hk⟩ := map_mappings e offset length p k
    have hmappings : SameFiles k { k with mappings } := ⟨fun _ => rfl, rfl, rfl⟩
    exact hmappings.alike hk
  | unmap id =>
    obtain ⟨mappings, hk⟩ := unmap_mappings id k
    have hmappings : SameFiles k { k with mappings } := ⟨fun _ => rfl, rfl, rfl⟩
    exact hmappings.alike hk
  | store id position data => exact (store_modifies id position data k).sameFiles

/-- The open descriptors after an operation that closes none are those before and those it opens. -/
theorem Roster.perform (h : Roster k ds) {op : Operation} (hop : op.closes = false) :
    Roster (op.perform k) (op.opened k ++ ds) := by
  cases hkeeps : op.keepsDescriptors with
  | true =>
    have hopened : op.opened k = [] := by
      cases op with
      | createMemory | createShared | openShared | makePipe | reopen | duplicate => cases hkeeps
      | _ => rfl
    rw [hopened]
    exact h.congr (perform_sameFiles hkeeps k).fileId?
  | false =>
    cases op with
    | createMemory sealing =>
      refine h.of_call (fun d k' hcall => ?_) fun _ hcall => invoke_none hcall
      obtain ⟨k₁, hinstall, halike⟩ := createMemory_some hcall
      exact Opens.alike ⟨hinstall.vacant, _, hinstall.fileId?⟩ halike
    | createShared name =>
      refine h.of_call (fun d k' hcall => ?_) fun _ hcall => invoke_none hcall
      obtain ⟨k₁, hinstall, halike⟩ := createShared_some hcall
      exact Opens.alike ⟨hinstall.vacant, _, hinstall.fileId?⟩ halike
    | openShared name =>
      refine h.of_call (fun d k' hcall => ?_) fun _ hcall => invoke_none hcall
      obtain ⟨_, k₁, _, hinstall, halike⟩ := openShared_some hcall
      exact Opens.alike ⟨hinstall.vacant, _, hinstall.fileId?⟩ halike
    | reopen e access =>
      exact h.of_call (fun _ _ hcall => reopen_some hcall) fun _ hcall => invoke_none hcall
    | duplicate e =>
      refine h.of_call (fun d k' hcall => ?_) fun _ hcall => invoke_none hcall
      obtain ⟨_, k₁, _, hinstall, halike⟩ := duplicate_some hcall
      exact Opens.alike ⟨hinstall.vacant, _, hinstall.fileId?⟩ halike
    | makePipe =>
      change Roster (Kernel.makePipe k).2
        ((Kernel.makePipe k).1.toList.flatMap (fun ends => [ends.1, ends.2]) ++ ds)
      cases hcall : Kernel.makePipe k with
      | mk outcome k' =>
        cases outcome with
        | none => exact h.alike (invoke_none hcall)
        | some ends =>
          obtain ⟨k₁, hfirst, hsecond⟩ := makePipe_some hcall
          exact ((h.opens hfirst).opens hsecond).perm (.swap _ _ _)
    | close => cases hop
    | _ => cases hkeeps

/-- What the caller has at the end is what is open, apart from what was open and not its own. -/
theorem Turnover.roster {others : List Descriptor} (h : Turnover k ds k' ds')
    (hk : Roster k (ds ++ others)) : Roster k' (ds' ++ others) := by
  induction h with
  | refl => exact hk
  | call op hop _ ih =>
    rw [List.append_assoc]
    exact ih.perform hop
  | close d _ ih => exact ih.forget.alike (close_alike d _)
  | perm _ hp ih => exact ih.perm (hp.append_right others)

end Kernel

end SharedMemory
