import Mathlib.Data.List.Pairwise
import SharedMemory.Proofs.Backing.Turnover
import SharedMemory.Proofs.Session.Inventory
/-!
# Where the objects of sealed files come from

The creation of a region makes an object, an open file of it and an identifier, and no two creations
make the same of any. Nothing else does: a duplicate shares the open file, and whatever is done with
a handle, it refers to the open file that was made together with the identifier it travels with.
-/
namespace SharedMemory

open Kernel Effect SealedFile

/-- The identifiers from the next one to be drawn up to a place differ, and none is nil. -/
structure Supply.Fresh (s : Supply) (bound : Nat) : Prop where
  distinct : ∀ i j, s.drawn ≤ i → i < bound → s.drawn ≤ j → j < bound → s.draw i = s.draw j → i = j
  ne_nil : ∀ i, s.drawn ≤ i → i < bound → s.draw i ≠ .nil

/-- What the creation of a region has made. Its identifier was drawn at a place of a supply. -/
structure Origin where
  place : Nat
  file : FileId
  object : ObjectId

/-- Two creations have nothing in common. -/
structure Origin.Apart (a b : Origin) : Prop where
  place : a.place ≠ b.place
  object : a.object ≠ b.object

instance : Std.Symm Origin.Apart := ⟨fun _ _ h => ⟨h.place.symm, h.object.symm⟩⟩

/-- A handle with the identifier that it travels with, or what is left of a region without one. -/
structure Token where
  handle : Option SealedFile
  guid : Guid

/-- What the creations have made since an identifier was first drawn from the supply `first`. -/
structure Recorded (first : Supply) (y : System) (origins : List Origin) : Prop where
  distinct : origins.Pairwise Origin.Apart
  file : ∀ o ∈ origins, ∃ access, y.kernel.files[o.file]? = some ⟨o.object, access⟩
  object : ∀ o ∈ origins, o.object < y.kernel.objects.length
  place : ∀ o ∈ origins, first.drawn ≤ o.place ∧ o.place < y.guids.drawn

/-- The handle refers to the open file of an origin and travels with its identifier. -/
def Token.ComesFrom (first : Supply) (x : Token) (k : Kernel) (origins : List Origin) : Prop :=
  match x.handle with
  | none => x.guid = .nil
  | some h => ∃ o ∈ origins, x.guid = first.draw o.place ∧ k.fileId? h.fd = some o.file

/-- All handles come from somewhere, and no two have one descriptor. -/
structure Identified (first : Supply) (y : System) (xs : List Token) : Prop where
  draw : y.guids.draw = first.draw
  drawn : first.drawn ≤ y.guids.drawn
  apart : (xs.filterMap (·.handle)).Nodup
  origins : ∃ origins, Recorded first y origins ∧ ∀ x ∈ xs, x.ComesFrom first y.kernel origins

variable {first : Supply} {y y' : System} {xs ys : List Token} {h : SealedFile} {g : Guid}
  {origins : List Origin}

theorem Recorded.grow (hr : Recorded first y origins)
    (hfiles : y.kernel.files <+: y'.kernel.files)
    (hobjects : y.kernel.objects.length ≤ y'.kernel.objects.length)
    (hdrawn : y.guids.drawn ≤ y'.guids.drawn) : Recorded first y' origins where
  distinct := hr.distinct
  file o ho := by
    obtain ⟨access, haccess⟩ := hr.file o ho
    obtain ⟨rest, hrest⟩ := hfiles
    have hlt : o.file < y.kernel.files.length := (List.getElem?_eq_some_iff.mp haccess).1
    exact ⟨access, by rw [← hrest, List.getElem?_append_left hlt, haccess]⟩
  object o ho := Nat.lt_of_lt_of_le (hr.object o ho) hobjects
  place o ho := ⟨(hr.place o ho).1, Nat.lt_of_lt_of_le (hr.place o ho).2 hdrawn⟩

theorem Token.ComesFrom.mono {x : Token} {k k' : Kernel} {origins' : List Origin}
    (hx : x.ComesFrom first k origins) (hsub : ∀ o ∈ origins, o ∈ origins')
    (hid : ∀ h, x.handle = some h → k'.fileId? h.fd = k.fileId? h.fd) :
    x.ComesFrom first k' origins' := by
  unfold Token.ComesFrom at hx ⊢
  cases hhandle : x.handle with
  | none =>
    rw [hhandle] at hx
    exact hx
  | some h =>
    rw [hhandle] at hx
    obtain ⟨o, ho, hguid, hfile⟩ := hx
    exact ⟨o, hsub o ho, hguid, by rw [hid h hhandle, hfile]⟩

namespace Identified

theorem perm (hi : Identified first y xs) (hp : xs.Perm ys) : Identified first y ys := by
  obtain ⟨origins, hr, hx⟩ := hi.origins
  exact ⟨hi.draw, hi.drawn, (hp.filterMap _).nodup_iff.mp hi.apart,
    origins, hr, fun x hmem => hx x (hp.mem_iff.mpr hmem)⟩

theorem keep (hi : Identified first y xs)
    (hid : ∀ h ∈ xs.filterMap (·.handle), y'.kernel.fileId? h.fd = y.kernel.fileId? h.fd)
    (hfiles : y.kernel.files <+: y'.kernel.files)
    (hobjects : y.kernel.objects.length ≤ y'.kernel.objects.length)
    (hguids : y'.guids = y.guids) : Identified first y' xs := by
  obtain ⟨origins, hr, hx⟩ := hi.origins
  refine ⟨hguids ▸ hi.draw, hguids ▸ hi.drawn, hi.apart, origins,
    hr.grow hfiles hobjects (hguids ▸ Nat.le_refl _), fun x hmem => ?_⟩
  exact (hx x hmem).mono (fun _ ho => ho) fun h hh => hid h (List.mem_filterMap.mpr ⟨x, hmem, hh⟩)

theorem same {k' : Kernel} (hi : Identified first y xs) (hs : SameFiles y.kernel k') :
    Identified first { y with kernel := k' } xs :=
  hi.keep (fun h _ => hs.fileId? h.fd) (hs.files ▸ List.prefix_rfl) (Nat.le_of_eq hs.objects.symm)
    rfl

private theorem origin_of_mem (hi : Identified first y xs) : ∃ origins, Recorded first y origins ∧
    ∀ x ∈ xs, ∀ h, x.handle = some h → ∃ o ∈ origins, x.guid = first.draw o.place ∧
      y.kernel.fileId? h.fd = some o.file ∧ y.kernel.objectOf? h.fd = some o.object := by
  obtain ⟨origins, hr, hx⟩ := hi.origins
  refine ⟨origins, hr, fun x hmem h hh => ?_⟩
  have hcomes := hx x hmem
  unfold Token.ComesFrom at hcomes
  rw [hh] at hcomes
  obtain ⟨o, ho, hguid, hid⟩ := hcomes
  obtain ⟨access, hfile⟩ := hr.file o ho
  exact ⟨o, ho, hguid, hid,
    by rw [objectOf?, file?, hid, Option.bind_some, hfile, Option.map_some]⟩

theorem isOpen (hi : Identified first y xs) (hmem : h ∈ xs.filterMap (·.handle)) :
    ∃ id, y.kernel.fileId? h.fd = some id := by
  obtain ⟨origins, -, horigin⟩ := hi.origin_of_mem
  obtain ⟨x, hx, hh⟩ := List.mem_filterMap.mp hmem
  obtain ⟨o, -, -, hfile, -⟩ := horigin x hx h hh
  exact ⟨o.file, hfile⟩

private theorem not_mem_of_vacant (hi : Identified first y xs)
    (hvacant : y.kernel.fileId? h.fd = none) :
    h ∉ xs.filterMap (·.handle) := by
  intro hmem
  obtain ⟨id, hid⟩ := hi.isOpen hmem
  rw [hvacant] at hid
  cases hid

theorem tail {x : Token} (hi : Identified first y (x :: xs)) : Identified first y xs := by
  obtain ⟨origins, hr, hx⟩ := hi.origins
  have hsub : (xs.filterMap (·.handle)).Sublist ((x :: xs).filterMap (·.handle)) :=
    (List.sublist_cons_self x xs).filterMap _
  exact ⟨hi.draw, hi.drawn, hi.apart.sublist hsub, origins, hr,
    fun x' hmem => hx x' (List.mem_cons_of_mem x hmem)⟩

theorem empty (hi : Identified first y xs) : Identified first y (⟨none, .nil⟩ :: xs) := by
  obtain ⟨origins, hr, hx⟩ := hi.origins
  refine ⟨hi.draw, hi.drawn, hi.apart, origins, hr, fun x hmem => ?_⟩
  rcases List.mem_cons.mp hmem with rfl | hmem
  · rfl
  · exact hx x hmem

theorem forget {k' : Kernel} (hi : Identified first y (⟨some h, g⟩ :: xs))
    (hk : (y.kernel.forget h.fd).Alike k') : Identified first { y with kernel := k' } xs := by
  have hnew : h ∉ xs.filterMap (·.handle) := (List.nodup_cons.mp hi.apart).1
  have hfiles : k'.files = y.kernel.files := by
    obtain ⟨_, _, rfl⟩ := hk
    exact files_forget _ _
  have hobjects : k'.objects = y.kernel.objects := by
    obtain ⟨_, _, rfl⟩ := hk
    exact objects_forget _ _
  refine hi.tail.keep (fun h' hmem => ?_) (hfiles ▸ List.prefix_rfl) (hobjects ▸ Nat.le_refl _) rfl
  have hne : h'.fd ≠ h.fd := by
    intro heq
    obtain rfl : h' = h := congrArg SealedFile.mk heq
    exact hnew hmem
  rw [hk.fileId?, fileId?_forget, if_neg hne]

theorem copy {d : Descriptor} {k' : Kernel} (hi : Identified first y (⟨some h, g⟩ :: xs))
    (hcall : Kernel.duplicate h.fd y.kernel = (some d, k')) :
    Identified first { y with kernel := k' } (⟨some ⟨d⟩, g⟩ :: ⟨some h, g⟩ :: xs) := by
  obtain ⟨id, k₁, hid, hinstall, halike⟩ := duplicate_some hcall
  have hnew : ⟨d⟩ ∉ ((⟨some h, g⟩ : Token) :: xs).filterMap (·.handle) :=
    hi.not_mem_of_vacant hinstall.vacant
  have hfiles : k'.files = y.kernel.files := by
    obtain ⟨_, _, rfl⟩ := halike
    exact hinstall.files
  have hobjects : k'.objects = y.kernel.objects := halike.objects.trans hinstall.objects
  have hkeep : Identified first { y with kernel := k' } (⟨some h, g⟩ :: xs) := by
    refine hi.keep (fun h' hmem => ?_) (hfiles ▸ List.prefix_rfl) (hobjects ▸ Nat.le_refl _) rfl
    have hne : h'.fd ≠ d := fun heq => hnew (heq ▸ hmem)
    rw [halike.fileId?, hinstall.fileId?, if_neg hne]
  obtain ⟨origins, hr, hx⟩ := hkeep.origins
  refine ⟨hi.draw, hi.drawn, List.nodup_cons.mpr ⟨hnew, hi.apart⟩, origins, hr, fun x hmem => ?_⟩
  rcases List.mem_cons.mp hmem with rfl | hmem
  · obtain ⟨o, ho, hguid, hfile⟩ := hx _ List.mem_cons_self
    refine ⟨o, ho, hguid, ?_⟩
    have hsame : k'.fileId? h.fd = y.kernel.fileId? h.fd := by
      have hne : h.fd ≠ d := fun heq => hnew (heq ▸ List.mem_cons_self)
      rw [halike.fileId?, hinstall.fileId?, if_neg hne]
    rw [halike.fileId?, hinstall.fileId?, if_pos rfl, ← hfile, hsame, hid]
  · exact hx x hmem

theorem make {mode : Mode} {size : Nat} (hi : Identified first y xs)
    (ha : Allocated mode size h y.kernel y'.kernel) (hguids : y'.guids = y.guids.advance) :
    Identified first y' (⟨some h, y.guids.next⟩ :: xs) := by
  have hvacant : y.kernel.fileId? h.fd = none := ha.shift.vacant _ List.mem_cons_self
  have hnew := hi.not_mem_of_vacant hvacant
  obtain ⟨origins, hr, hx⟩ := hi.origins
  obtain ⟨file, hid, hfile⟩ := Option.bind_eq_some_iff.mp ha.file?
  have hnext : y.guids.next = first.draw y.guids.drawn := congrFun hi.draw _
  have hdraw : y'.guids.draw = first.draw := by rw [hguids]; exact hi.draw
  have hdrawn : y'.guids.drawn = y.guids.drawn + 1 := by rw [hguids]; rfl
  have hlt : y.kernel.objects.length < y'.kernel.objects.length := lt_of_kind_memory ha.kind
  have hr' : Recorded first y' (⟨y.guids.drawn, file, y.kernel.objects.length⟩ :: origins) := by
    have hgrow : Recorded first y' origins :=
      hr.grow ha.shift.files ha.shift.objects (by omega)
    have hapart : ∀ o ∈ origins, Origin.Apart ⟨y.guids.drawn, file, y.kernel.objects.length⟩ o :=
      fun o ho => ⟨(Nat.ne_of_lt (hr.place o ho).2).symm, (Nat.ne_of_lt (hr.object o ho)).symm⟩
    refine ⟨List.pairwise_cons.mpr ⟨hapart, hgrow.distinct⟩, fun o ho => ?_, fun o ho => ?_,
      fun o ho => ?_⟩
    · rcases List.mem_cons.mp ho with rfl | ho
      · exact ⟨_, hfile⟩
      · exact hgrow.file o ho
    · rcases List.mem_cons.mp ho with rfl | ho
      · exact hlt
      · exact hgrow.object o ho
    · rcases List.mem_cons.mp ho with rfl | ho
      · exact ⟨hi.drawn, hdrawn ▸ Nat.lt_succ_self _⟩
      · exact hgrow.place o ho
  refine ⟨hdraw, ?_, List.nodup_cons.mpr ⟨hnew, hi.apart⟩, _, hr', fun x hmem => ?_⟩
  · rw [hdrawn]
    exact Nat.le_succ_of_le hi.drawn
  · rcases List.mem_cons.mp hmem with rfl | hold
    · exact ⟨_, List.mem_cons_self, hnext, hid⟩
    · refine (hx x hold).mono (fun o ho => List.mem_cons_of_mem _ ho) fun h' hh' => ?_
      refine ha.shift.fileId? _ List.not_mem_nil fun hd => ?_
      have heq : h' = h := congrArg SealedFile.mk (List.mem_singleton.mp hd)
      exact hnew (heq ▸ List.mem_filterMap.mpr ⟨x, hold, hh'⟩)

/-- Two handles share an open file, an object and an identifier, or nothing of all this. -/
theorem compare {a b : Token} {ha hb : SealedFile} (hi : Identified first y xs)
    (hfresh : first.Fresh y.guids.drawn) (hamem : a ∈ xs) (hbmem : b ∈ xs)
    (hah : a.handle = some ha) (hbh : b.handle = some hb) :
    ∃ f g o p, y.kernel.fileId? ha.fd = some f ∧ y.kernel.fileId? hb.fd = some g ∧
      y.kernel.objectOf? ha.fd = some o ∧ y.kernel.objectOf? hb.fd = some p ∧
      ((a.guid = b.guid ∧ f = g ∧ o = p) ∨ (a.guid ≠ b.guid ∧ f ≠ g ∧ o ≠ p)) := by
  obtain ⟨origins, hr, horigin⟩ := hi.origin_of_mem
  obtain ⟨o, ho, hoguid, hofile, hoobject⟩ := horigin a hamem ha hah
  obtain ⟨p, hp, hpguid, hpfile, hpobject⟩ := horigin b hbmem hb hbh
  refine ⟨_, _, _, _, hofile, hpfile, hoobject, hpobject, ?_⟩
  by_cases heq : o = p
  · subst heq
    exact .inl ⟨hoguid.trans hpguid.symm, rfl, rfl⟩
  obtain ⟨hplace, hobject⟩ := hr.distinct.forall ho hp heq
  refine .inr ⟨fun hguid => hplace ?_, fun hfile => hobject ?_, hobject⟩
  · rw [hoguid, hpguid] at hguid
    obtain ⟨hole, holt⟩ := hr.place o ho
    obtain ⟨hple, hplt⟩ := hr.place p hp
    exact hfresh.distinct _ _ hole holt hple hplt hguid
  · obtain ⟨oaccess, hofiles⟩ := hr.file o ho
    obtain ⟨paccess, hpfiles⟩ := hr.file p hp
    rw [hfile, hpfiles] at hofiles
    exact (congrArg OpenFile.object (Option.some.inj hofiles)).symm

theorem guid_eq_nil_iff {x : Token} (hi : Identified first y xs)
    (hfresh : first.Fresh y.guids.drawn) (hmem : x ∈ xs) : x.guid = .nil ↔ x.handle = none := by
  obtain ⟨origins, hr, hx⟩ := hi.origins
  have hcomes := hx x hmem
  unfold Token.ComesFrom at hcomes
  cases hh : x.handle with
  | none =>
    rw [hh] at hcomes
    exact iff_of_true hcomes rfl
  | some h =>
    rw [hh] at hcomes
    obtain ⟨o, ho, hguid, -⟩ := hcomes
    obtain ⟨hle, hlt⟩ := hr.place o ho
    refine iff_of_false (fun hnil => hfresh.ne_nil _ hle hlt ?_) nofun
    rw [← hguid, hnil]

end Identified

private theorem identified_closed (first : Supply) : Closed Operation.keepsDescriptors
    fun y y' => ∀ xs, Identified first y xs → Identified first y' xs where
  refl _ _ hi := hi
  trans h h' xs hi := h' xs (h xs hi)
  perform y _ hop _ hi := hi.same (perform_sameFiles hop y.kernel)
  journal _ _ _ hi := hi.keep (fun _ _ => rfl) List.prefix_rfl (Nat.le_refl _) rfl

private theorem SealedFile.duplicate_identified (h : SealedFile)
    (hi : Identified first y (⟨some h, g⟩ :: xs)) :
    h.duplicate.Leads y fun outcome y' =>
      match outcome with
      | .error _ => Identified first y' (⟨some h, g⟩ :: xs)
      | .ok copy => Identified first y' (⟨some copy, g⟩ :: ⟨some h, g⟩ :: xs) := by
  cases hcall : Kernel.duplicate h.fd y.kernel with
  | mk outcome k' =>
    cases outcome with
    | none => exact .bind (.refused hcall (.pure (hi.same (invoke_none hcall).sameFiles)))
    | some d => exact .bind (.granted hcall (.pure (hi.copy hcall)))

private theorem guids_closed : Closed (fun _ => true) fun y y' => y'.guids = y.guids where
  refl _ := rfl
  trans h h' := h'.trans h
  perform _ _ _ := rfl
  journal _ _ := rfl

namespace Region

private theorem create_identified (mode : Mode) (size : Nat) (layout : Layout)
    (hi : Identified first y xs) :
    (create (H := SealedFile) mode size layout).Leads y fun outcome y' =>
      match outcome with
      | .error _ => Identified first y' xs
      | .ok r => Identified first y' (⟨r.handle, r.guid⟩ :: xs) := by
  unfold create
  split
  · exact .pure hi
  · split
    · exact .pure hi
    · split
      · exact .pure hi
      · rename_i allocated _
        have hguids := allocate_within guids_closed (fun _ _ => rfl) mode allocated
        refine .bind (((Leads.of_yields (allocate_yields mode allocated y.kernel)).and
          (.of_within hguids)).mono ?_)
        rintro outcome y₁ ⟨⟨-, hk⟩, hg⟩
        cases outcome with
        | error e =>
          have hi₁ := hi.keep (fun _ _ => hk.fileId? _ List.not_mem_nil List.not_mem_nil) hk.files
            hk.objects hg
          exact .bind (.record fun _ => .pure ((identified_closed first).journal _ _ _ hi₁))
        | ok h =>
          refine .bind (.freshGuid (.bind (.record fun _ => .pure ?_)))
          rw [hg]
          exact hi.make hk rfl

private theorem Downgrade.native_identified (goal : Downgrade) (h : SealedFile)
    (hi : Identified first y xs) :
    ((goal.conversion (H := SealedFile)).native h).Leads y fun outcome y' =>
      Identified first y' xs ∧ ∀ converted, outcome = .ok converted → converted = h := by
  have hclosed := identified_closed first
  cases goal with
  | readOnly =>
    have hwithin := toReadOnly_within hclosed (fun _ _ => rfl) h
    refine ((Leads.of_within hwithin).and (.of_yields (toReadOnly_yields h y.kernel))).mono ?_
    rintro outcome y' ⟨hi', hsame⟩
    refine ⟨hi' xs hi, ?_⟩
    rintro converted rfl
    exact hsame.1
  | shared =>
    have hwithin := toShared_within hclosed (fun _ _ => rfl) h
    refine ((Leads.of_within hwithin).and (.of_yields (toShared_yields h y.kernel))).mono ?_
    rintro outcome y' ⟨hi', hsame⟩
    refine ⟨hi' xs hi, ?_⟩
    rintro converted rfl
    exact hsame.1

private theorem convert_identified (r : Region SealedFile) (goal : Downgrade)
    (hi : Identified first y (⟨r.handle, r.guid⟩ :: xs)) :
    (r.convert goal.conversion).Leads y fun outcome y' =>
      match outcome with
      | .error _ => Identified first y' (⟨r.handle, r.guid⟩ :: xs)
      | .ok converted => Identified first y' (⟨converted.handle, converted.guid⟩ :: xs) := by
  refine .convert (fun _ => hi) (fun _ _ _ => hi) fun h hhandle _ => ?_
  rw [hhandle] at hi ⊢
  refine (goal.native_identified h hi).mono ?_
  rintro outcome y₁ ⟨hi₁, hsame⟩ journal
  have hi₂ := (identified_closed first).journal y₁ journal _ hi₁
  cases outcome with
  | error e => exact hi₂
  | ok converted =>
    obtain rfl := hsame converted rfl
    exact hi₂

private theorem duplicate_identified (r : Region SealedFile)
    (hi : Identified first y (⟨r.handle, r.guid⟩ :: xs)) :
    r.duplicate.Leads y fun outcome y' =>
      match outcome with
      | .error _ => Identified first y' (⟨r.handle, r.guid⟩ :: xs)
      | .ok copy =>
        Identified first y' (⟨copy.handle, copy.guid⟩ :: ⟨r.handle, r.guid⟩ :: xs) := by
  unfold duplicate
  split
  · exact .pure hi
  · rename_i h hhandle
    rw [hhandle] at hi ⊢
    split
    · exact .pure hi
    · refine .bind ((SealedFile.duplicate_identified h hi).mono ?_)
      intro outcome y₁ hi₁
      cases outcome with
      | error e =>
        exact .bind (.record fun _ => .pure ((identified_closed first).journal _ _ _ hi₁))
      | ok copy => exact .pure hi₁

private theorem release_identified (r : Region SealedFile)
    (hi : Identified first y (⟨r.handle, r.guid⟩ :: xs)) :
    r.release.Leads y fun _ y' => Identified first y' xs := by
  unfold release
  split
  · exact .pure hi.tail
  · rename_i h hhandle
    rw [hhandle] at hi
    exact .closeDescriptor fun _ hk => hi.forget hk

/-- A handle that is accepted keeps the identifier that it travels with, if it is given that. -/
theorem take_identified (h : SealedFile) (header : Header)
    (hi : Identified first y (⟨some h, header.guid⟩ :: xs)) :
    (take h header).Leads y fun outcome y' =>
      match outcome with
      | .error _ => Identified first y' xs
      | .ok r => Identified first y' (⟨r.handle, r.guid⟩ :: xs) := by
  unfold take
  split
  · exact .bind (.closeDescriptor fun _ hk => .pure (hi.forget hk))
  · have hlook := corresponds_within (identified_closed first).looks_of_keepsDescriptors h
      header.mode header.size
    refine .bind ((Leads.of_within hlook).mono fun answer y₁ h₁ => ?_)
    split
    · exact .pure (h₁ _ hi)
    · exact .bind (.closeDescriptor fun _ hk => .pure ((h₁ _ hi).forget hk))

end Region

/-- What stands behind regions and handles, given the identifiers that handles travel with. -/
def Inventory.tokens (tags : Slots Guid) : Inventory SealedFile Token where
  region r := [⟨r.handle, r.guid⟩]
  handle name h := [⟨some h, (tags.get? name).getD .nil⟩]
  loose _ := []

theorem tokens_last (first : Supply) (tags : Slots Guid) :
    (Inventory.tokens tags).Lasts (Identified first) where
  perm := Identified.perm
  still := identified_closed first
  invalid := Identified.empty
  create mode size layout hi :=
    (Region.create_identified mode size layout hi).mono fun
      | .error _, _, hi' => hi'
      | .ok _, _, hi' => hi'
  convert r goal hi :=
    (r.convert_identified goal hi).mono fun
      | .error _, _, hi' => hi'
      | .ok _, _, hi' => hi'
  duplicate r hi :=
    r.duplicate_identified hi |>.mono fun
      | .error _, _, hi' => hi'
      | .ok _, _, hi' => hi'
  release := Region.release_identified
  releaseHandle _ _ hi := .closeDescriptor fun _ hk => hi.forget hk

end SharedMemory
