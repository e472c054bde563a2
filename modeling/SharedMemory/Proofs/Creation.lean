import SharedMemory.Proofs.Careful
import SharedMemory.Proofs.Complete
import SharedMemory.Proofs.Layout
/-!
# What decides a creation

A region is asked for in a mode, with a size and by a layout, and these alone decide the answer
where the kernel refuses only what it must. Read-only is misuse whatever the size is, and a size
that no region has is refused before anything is done. The bytes of any other size have room in a
whole number of pages. The object gets that length, which is too long for exactly one size of a
page.
-/
namespace SharedMemory

open Kernel Effect Backing

namespace Layout

variable {l : Layout} {n length : Nat}

private theorem roundUp?_of_validSize (l : Layout) (hn : validSize n = true) :
    ∃ length, l.roundUp? n = some length ∧ l.RoundsUp n length := by
  have hle := (validSize_iff.mp hn).2
  have hpage : l.page ≤ 2 ^ 63 := by
    rw [page_eq]
    exact Nat.pow_le_pow_right (by decide) (Nat.le_of_lt_succ l.pageBits.isLt)
  have hfits : n + (l.page - 1) < UInt64.size := by
    simp only [maxRegionSize, UInt64.size] at hle ⊢
    omega
  exact ⟨_, if_pos hfits, l.roundsUp n⟩

private theorem RoundsUp.maxPosition_lt_iff (h : l.RoundsUp n length) (hn : validSize n = true) :
    maxPosition < length ↔ l.page = 2 ^ 63 := by
  obtain ⟨hpos, hle⟩ := validSize_iff.mp hn
  constructor
  · intro hlong
    apply Decidable.byContradiction
    intro hother
    have hbits : l.pageBits.val ≠ 63 := by
      intro hbits
      rw [page_eq, hbits] at hother
      exact hother rfl
    have hpage : l.page ≤ 2 ^ 62 := by
      rw [page_eq]
      exact Nat.pow_le_pow_right (by decide) (by omega)
    have hlt := h.lt
    simp only [maxPosition, maxRegionSize] at hlong hle
    omega
  · intro hpage
    have hmultiple : l.page ≤ length := Nat.le_of_dvd (Nat.lt_of_lt_of_le hpos h.le) h.dvd
    simp only [maxPosition]
    omega

end Layout

namespace Kernel

variable {k k' : Kernel}

/-- An object has a descriptor, a mapping or a name. -/
def Used (k : Kernel) (o : ObjectId) : Prop :=
  (∃ d, k.objectOf? d = some o) ∨ (∃ id m, k.mappings.get? id = some m ∧ m.object = o) ∨
    ∃ name, k.names.lookup name = some o

/-- Every descriptor in the table has its open file. -/
def Grounded (k : Kernel) : Prop := ∀ d id, k.fileId? d = some id → id < k.files.length

/-- Descriptors, mappings and names are what they were, and no new object has come into use. -/
structure Remains (k k' : Kernel) : Prop extends Untouched k k' where
  names : k'.names = k.names
  used : k.Grounded → ∀ o, k'.Used o ↔ k.Used o

theorem Untouched.file?_eq (h : Untouched k k') (hk : k.Grounded) (d : Descriptor) :
    k'.file? d = k.file? d := by
  rw [file?, file?, h.fileId?]
  cases hid : k.fileId? d with
  | none => rfl
  | some id =>
    obtain ⟨rest, hrest⟩ := h.files
    rw [Option.bind_some, Option.bind_some, ← hrest, List.getElem?_append_left (hk d id hid)]

private theorem Untouched.remains (h : Untouched k k') (hnames : k'.names = k.names) :
    Remains k k' := by
  refine { h with names := hnames, used := fun hk o => ?_ }
  have hobject : ∀ d, k'.objectOf? d = k.objectOf? d := fun d => by
    rw [objectOf?, objectOf?, h.file?_eq hk]
  simp only [Used, hobject, h.mappings, hnames]

end Kernel

namespace Region

variable {H : Type} [Backing H] [Rights H]

/-- A region of a new object, which is all zero, and objects that were there stay as they are. -/
structure Creates (mode : Mode) (size length : Nat) (s : System) (r : Region H) (h : H)
    (s' : System) : Prop where
  region : r = ⟨some h, mode, size, s.guids.next⟩
  makes : Makes mode length h s.kernel s'.kernel
  zero : ∀ p, (s'.kernel.object s.kernel.objects.length).content p = 0
  rest : Extends s.kernel s'.kernel

/-- The answer to a request for a region, and what the request leaves behind. -/
structure Decided (mode : Mode) (size : Nat) (layout : Layout) (s : System)
    (outcome : Except Failure (Region H)) (s' : System) : Prop where
  misuse : mode = .readOnly → outcome = .error (.misuse .createReadOnly) ∧ s' = s
  invalid : mode ≠ .readOnly → size = 0 ∨ maxRegionSize < size →
    outcome = .error (.error (.invalidSize size)) ∧ s' = s
  valid : mode ≠ .readOnly → 0 < size → size ≤ maxRegionSize →
    ∃ length, layout.roundUp? size = some length ∧ layout.RoundsUp size length ∧
      (length ≤ maxPosition → ∃ r h, outcome = .ok r ∧ Creates mode size length s r h s') ∧
      (maxPosition < length → layout.page = 2 ^ 63 ∧
        outcome = .error (.error (.allocate size .invalidArgument)) ∧
        Remains s.kernel s'.kernel)

variable {mode : Mode} {size : Nat} {layout : Layout} {s s' : System}
  {outcome : Except Failure (Region H)}

private theorem Decided.of_valid (hmode : mode ≠ .readOnly) (hvalid : validSize size = true)
    {length : Nat}
    (hround : layout.roundUp? size = some length) (hrounds : layout.RoundsUp size length)
    (hfits : length ≤ maxPosition → ∃ r h, outcome = .ok r ∧ Creates mode size length s r h s')
    (hlong : maxPosition < length →
      outcome = .error (.error (.allocate size .invalidArgument)) ∧
        Remains s.kernel s'.kernel) :
    Decided mode size layout s outcome s' := by
  obtain ⟨hpos, hle⟩ := validSize_iff.mp hvalid
  refine ⟨fun h => absurd h hmode, fun _ hsize => ?_, fun _ _ _ =>
    ⟨length, hround, hrounds, hfits, fun hlt => ⟨?_, hlong hlt⟩⟩⟩
  · exact absurd hsize (by omega)
  · exact (hrounds.maxPosition_lt_iff hvalid).mp hlt

theorem Decided.answer (hd : Decided mode size layout s outcome s') (hmode : mode ≠ .readOnly) :
    (size = 0 ∨ maxRegionSize < size) ∧ outcome = .error (.error (.invalidSize size)) ∨
      ¬ (size = 0 ∨ maxRegionSize < size) ∧
        ((∃ r, outcome = .ok r) ∨
          outcome = .error (.error (.allocate size .invalidArgument))) := by
  by_cases hsize : size = 0 ∨ maxRegionSize < size
  · exact .inl ⟨hsize, (hd.invalid hmode hsize).1⟩
  · obtain ⟨length, -, -, hfits, hlong⟩ := hd.valid hmode (by omega) (by omega)
    refine .inr ⟨hsize, ?_⟩
    rcases Nat.lt_or_ge maxPosition length with hlt | hle
    · exact .inr (hlong hlt).2.1
    · obtain ⟨r, -, hok, -⟩ := hfits hle
      exact .inl ⟨r, hok⟩

private theorem Decided.misuse_iff (hd : Decided mode size layout s outcome s') :
    (∃ m, outcome = .error (.misuse m)) ↔ mode = .readOnly := by
  refine ⟨?_, fun hmode => ⟨_, (hd.misuse hmode).1⟩⟩
  rintro ⟨m, rfl⟩
  apply Decidable.byContradiction
  intro hmode
  rcases hd.answer hmode with ⟨-, h⟩ | ⟨-, ⟨r, h⟩ | h⟩
  all_goals cases h

private theorem Decided.invalidSize_iff (hd : Decided mode size layout s outcome s')
    (hmode : mode ≠ .readOnly) :
    (∃ n, outcome = .error (.error (.invalidSize n))) ↔ size = 0 ∨ maxRegionSize < size := by
  refine ⟨?_, fun hsize => ⟨size, (hd.invalid hmode hsize).1⟩⟩
  rintro ⟨n, rfl⟩
  rcases hd.answer hmode with ⟨hsize, -⟩ | ⟨-, ⟨r, h⟩ | h⟩
  · exact hsize
  all_goals cases h

/-- Besides, there is no other reason for misuse and for a size to be refused. -/
structure Settled (mode : Mode) (size : Nat) (layout : Layout) (s : System)
    (outcome : Except Failure (Region H)) (s' : System) : Prop
    extends Decided mode size layout s outcome s' where
  misuse_iff : (∃ m, outcome = .error (.misuse m)) ↔ mode = .readOnly
  invalidSize_iff : mode ≠ .readOnly →
    ((∃ n, outcome = .error (.error (.invalidSize n))) ↔ size = 0 ∨ maxRegionSize < size)

private theorem Decided.settled (hd : Decided mode size layout s outcome s') :
    Settled mode size layout s outcome s' :=
  { hd with misuse_iff := hd.misuse_iff, invalidSize_iff := hd.invalidSize_iff }

private theorem create_decided [LawfulBacking H] [CarefulBacking H] (mode : Mode) (size : Nat)
    (layout : Layout) {s : System} (hallots : ∀ length, length < UInt64.size →
      (Backing.allocate (H := H) mode length).Leads s (Allots length s)) :
    (create (H := H) mode size layout).Leads s (Decided mode size layout s) := by
  unfold create
  split
  · rename_i hmode
    exact .pure ⟨fun _ => ⟨rfl, rfl⟩, fun h => absurd hmode h, fun h => absurd hmode h⟩
  · rename_i hmode
    split
    · rename_i hsize
      have hsize : ¬ (0 < size ∧ size ≤ maxRegionSize) := fun h => hsize (validSize_iff.mpr h)
      exact .pure ⟨fun h => absurd h hmode, fun _ _ => ⟨rfl, rfl⟩,
        fun _ hpos hle => absurd ⟨hpos, hle⟩ hsize⟩
    · rename_i hsize
      have hvalid : validSize size = true := Decidable.not_not.mp hsize
      obtain ⟨length, hround, hrounds⟩ := layout.roundUp?_of_validSize hvalid
      have hlt : length < UInt64.size := (Layout.le_of_roundUp? hround).2
      rw [hround]
      refine .bind ((((hallots length hlt).and
        (.of_yields (LawfulBacking.allocate_yields mode length s.kernel hmode hlt))).and
        (.of_yields (CarefulBacking.allocate mode length s.kernel))).mono ?_)
      rintro outcome s₁ ⟨⟨hallotted, hmade⟩, hextends, hfailed⟩
      unfold Allots at hallotted
      cases outcome with
      | error e =>
        split at hallotted
        · obtain ⟨⟨h, hok⟩, -⟩ := hallotted
          cases hok
        · rename_i hlong
          obtain ⟨herror, hbare⟩ := hallotted
          cases herror
          have hnames : s₁.kernel.names = s.kernel.names :=
            (congrArg (fun base : System => base.kernel.names) hbare :)
          exact .bind (.record fun _ => .pure (.of_valid hmode hvalid hround hrounds
            (fun hle => absurd hle hlong) fun _ => ⟨rfl, (hfailed _ rfl).remains hnames⟩))
      | ok h =>
        split at hallotted
        · rename_i hfits
          have hguids : s₁.guids = s.guids :=
            (congrArg (fun base : System => base.guids) hallotted.2 :)
          refine .bind (.freshGuid (.bind (.record fun _ => .pure (.of_valid hmode hvalid hround
            hrounds (fun _ => ⟨_, h, rfl, ?_⟩) fun hlong => absurd hfits (Nat.not_le.mpr hlong)))))
          have hblank : s.kernel.object s.kernel.objects.length = default := by
            rw [Kernel.object, List.getD_eq_getElem?_getD, List.getElem?_eq_none (Nat.le_refl _)]
            rfl
          refine ⟨by rw [hguids], hmade, fun p => ?_, hextends⟩
          rw [hextends.content, hblank]
          rfl
        · cases hallotted.1

/-- Where the kernel has neither a plan nor a limit, the mode, the size and the layout decide a
creation, in the same way for both backings. Pairs need a name besides that is not in use. -/
theorem creation_decided (mode : Mode) (size : Nat) (layout : Layout) (s : System)
    (hg : s.kernel.Generous) :
    (create (H := SealedFile) mode size layout).Leads s (Settled mode size layout s) ∧
      (s.kernel.names.lookup (objectName s.names.next) = none →
        (create (H := DescriptorPair) mode size layout).Leads s (Settled mode size layout s)) :=
  ⟨(create_decided mode size layout fun length hlt =>
      SealedFile.allocate_allots mode length hg hlt).mono fun _ _ hd => hd.settled,
    fun hname => (create_decided mode size layout fun length _ =>
      DescriptorPair.allocate_allots mode length hg hname).mono fun _ _ hd => hd.settled⟩

/-- The layout whose pages are too long for a signed word. -/
def longestPages : Layout := ⟨⟨63, by decide⟩, ⟨63, by decide⟩, by decide⟩

theorem creation_decided_of_pages :
    ({} : Kernel).Generous ∧
      (∃ r h, ((create (H := SealedFile) .writable 5000 .host).run {}).1 = .ok r ∧
        Creates .writable 5000 8192 {} r h
          ((create (H := SealedFile) .writable 5000 .host).run {}).2) ∧
      ((create (H := DescriptorPair) .shared 5000 longestPages).run {}).1 =
        .error (.error (.allocate 5000 .invalidArgument)) := by
  have hg : ({} : Kernel).Generous := ⟨fun _ _ => rfl, rfl⟩
  refine ⟨hg, ?_, ?_⟩
  · obtain ⟨length, hround, -, hfits, -⟩ :=
      (creation_decided .writable 5000 .host {} hg).1.valid (by decide) (by decide) (by decide)
    obtain rfl : length = 8192 := Option.some.inj hround.symm
    exact hfits (by decide)
  · obtain ⟨length, hround, -, -, hlong⟩ :=
      ((creation_decided .shared 5000 longestPages {} hg).2 rfl).valid (by decide) (by decide)
        (by decide)
    obtain rfl : length = 0x8000000000000000 := Option.some.inj hround.symm
    exact (hlong (by decide)).2.1

end Region

end SharedMemory
