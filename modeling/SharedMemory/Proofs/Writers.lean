import SharedMemory.Proofs.Session.Pairs
import SharedMemory.Proofs.Session.Sealed
/-!
# Writable regions of one object

A writable region is meant to be the only reference to its memory. No operation of the regions
makes a second one, and neither does any other step that does not multiply handles which grant the
writable mode. But a handle in this mode may be duplicated natively, and the duplicate may be taken
as a writable region: the check looks at the rights of the handle and not at who else has them.
-/
namespace SharedMemory

/-- Along a run, no step is one of the bad ones in the state that it is taken in. -/
def Avoids {σ : Type} {τ : Type 1} (run : σ → τ → σ) (bad : σ → τ → Prop) : σ → List τ → Prop
  | _, [] => True
  | s, step :: rest => ¬ bad s step ∧ Avoids run bad (run s step) rest

private theorem invariant_of_avoids {σ : Type} {τ : Type 1} {run : σ → τ → σ} {bad : σ → τ → Prop}
    {P : σ → Prop} (hstep : ∀ s step, P s → ¬ bad s step → P (run s step)) {s : σ}
    {steps : List τ} (hs : P s) (hrun : Avoids run bad s steps) : P (steps.foldl run s) := by
  induction steps generalizing s with
  | nil => exact hs
  | cons step rest ih => exact ih (hstep s step hs hrun.1) hrun.2

namespace Session

open Kernel Backing Script

variable {H : Type} [Backing H]

/-- The region of a name is valid and writable, and it refers to the object. -/
def WritesTo (s : Session H) (name : String) (o : ObjectId) : Prop :=
  ∃ r h, s.regions.get? name = some r ∧ r.handle = some h ∧ r.mode = .writable ∧
    s.system.kernel.objectOf? (Backing.descriptor h) = some o

/-- No two writable regions refer to one object. -/
def SoleWriters (s : Session H) : Prop := ∀ a b o, s.WritesTo a o → s.WritesTo b o → a = b

/-- The handle of a region is duplicated, and the duplicate is taken. -/
def takeDuplicate (name held dest : String) (header : Header) : List NativeStep :=
  [.duplicateHandle (.region name) held, .basic (.take held header dest)]

/-- A pair is put together of two loose descriptors, and taken. -/
def takeJoined (first spare held dest : String) (header : Header) : List PairStep :=
  [.join first (some spare) held, .basic (.take held header dest)]

/-- The descriptor of a region is cloned, and a handle that is made of the clone is taken. -/
def takeClone (name loose held dest : String) (header : Header) : List SealedStep :=
  [.loose (.cloneBorrowed (.region name) false loose), .enclose loose held,
    .basic (.take held header dest)]

variable [Rights H] {own : Prop} {loose : Slots Descriptor} {hand : List (Holding H)}
  {s : Session H} {k : Kernel} {h : H} {header : Header} {o : ObjectId}

private theorem grants_of_kept (hk : Kept own k ⟨h, some header⟩) (hmode : header.mode = .writable)
    (ho : k.objectOf? (Backing.descriptor h) = some o) :
    Grants k h o .writable ∧ (own → header.size ≤ (k.object o).length) := by
  obtain ⟨-, o', hg, hlength⟩ := hk.label _ rfl
  obtain rfl : o' = o := by
    obtain ⟨access, hfile, -⟩ := hg
    rw [objectOf?, hfile] at ho
    exact Option.some.inj ho
  exact ⟨hmode ▸ hg, hlength⟩

theorem InCustody.writer (hs : InCustody True loose hand s) {name : String}
    (hw : s.WritesTo name o) : ∃ (header : Header) (h : H),
      s.holder? (.region name) = some h ∧
      Sound s.system.kernel h ∧ Grants s.system.kernel h o .writable ∧ header.mode = .writable ∧
        validSize header.size = true ∧ header.size ≤ (s.system.kernel.object o).length := by
  obtain ⟨r, h, hr, hhandle, hmode, hobject⟩ := hw
  have hkept := hs.kept hr hhandle
  obtain ⟨hg, hlength⟩ := grants_of_kept hkept hmode hobject
  refine ⟨r.header, h, ?_, hkept.sound, hg, hmode, (hkept.label _ rfl).1, hlength trivial⟩
  rw [holder?, hr, Option.bind_some, hhandle]

private theorem InCustody.soleWriters (hs : InCustody own loose hand s) : s.SoleWriters := by
  rintro a b o ⟨ra, ha, hra, hha, hma, hoa⟩ ⟨rb, hb, hrb, hhb, hmb, hob⟩
  apply Decidable.byContradiction
  intro hne
  have htake := (hs.takeRegion hra).front
  rw [Region.holdings_of_some hha] at htake
  obtain ⟨hka, hapart, hrest⟩ := Custody.cons_iff.mp htake
  have hmem : (⟨hb, some rb.header⟩ : Holding H) ∈
      [].append hand ++ ({ s with regions := s.regions.erase a } : Session H).holdings := by
    have hget : (s.regions.erase a).get? b = some rb := by
      rw [Slots.get?_erase, if_neg (Ne.symm hne), hrb]
    refine List.mem_append_right _ (List.mem_append_left _
      (List.mem_flatMap.mpr ⟨rb, Slots.mem_values_of_get? hget, ?_⟩))
    rw [Region.holdings_of_some hhb]
    exact List.mem_singleton_self _
  exact (hapart _ hmem).writers o (grants_of_kept hka hma hoa).1
    (grants_of_kept (hrest.each _ hmem) hmb hob).1

variable [LawfulBacking H]

/-- Where there is no plan, a handle that grants the writable mode is taken as a writable region,
and the regions that were there before stay what they were. -/
private theorem take_writes {held dest : String} (hheld : s.handles.get? held = some h)
    (hdest : s.regions.get? dest = none) (ho : s.system.kernel.Obliging)
    (hsound : Sound s.system.kernel h) (hmode : header.mode = .writable)
    (hvalid : validSize header.size = true) (hg : Grants s.system.kernel h o .writable)
    (hlength : header.size ≤ (s.system.kernel.object o).length) :
    (take held header dest).Yields s fun _ s' =>
      s'.WritesTo dest o ∧ ∀ name o', s.WritesTo name o' → s'.WritesTo name o' := by
  have hbytes : GrantsBytes s.system.kernel h header.mode header.size :=
    ⟨o, hmode ▸ hg, hlength⟩
  refine .bind (.heldSome hheld (.bind (.modify (.bind (.act
    ((Region.take_accepts hsound ho.candid hvalid hbytes).mono ?_))))))
  intro outcome k' hk' system hsys
  obtain ⟨rfl, halike⟩ := hk'
  subst hsys
  refine .bind (.putRegion hdest (.bind (.viewRegion fun _ => .pure ⟨?_, ?_⟩)))
  · obtain ⟨access, hfile, -⟩ := hg
    refine ⟨_, h, by rw [Slots.get?_put, if_pos rfl], rfl, hmode, ?_⟩
    rw [objectOf?, halike.file?, hfile]
    rfl
  · rintro name o' ⟨r, hr, hget, hhandle, hwritable, hobject⟩
    refine ⟨r, hr, ?_, hhandle, hwritable, ?_⟩
    · rw [Slots.get?_put, if_neg fun heq => ?_, hget]
      rw [heq, hdest] at hget
      cases hget
    · rw [objectOf?, halike.file?]
      exact hobject

/-- A handle that grants the writable mode on an object has been put under a name, and no region has
been touched. -/
structure Doubles (held : String) (o : ObjectId) (s s' : Session H) : Prop where
  copy : ∃ copy, s'.handles.get? held = some copy ∧ Sound s'.system.kernel copy ∧
    Grants s'.system.kernel copy o .writable
  regions : s'.regions = s.regions
  obliging : s'.system.kernel.Obliging
  shift : ∃ fresh, Shift [] fresh [] s.system.kernel s'.system.kernel

/-- The handle is taken as a second writable region of its object. -/
theorem Doubles.take {s' : Session H} {name held dest : String} (hs : Doubles held o s s')
    (hw : s.WritesTo name o) (hdest : s.regions.get? dest = none)
    (hlt : o < s.system.kernel.objects.length) (hmode : header.mode = .writable)
    (hvalid : validSize header.size = true)
    (hlength : header.size ≤ (s.system.kernel.object o).length) :
    (take held header dest).Yields s' fun _ s'' => s''.WritesTo name o ∧ s''.WritesTo dest o := by
  obtain ⟨⟨copy, hcopy, hsound, hg⟩, hregions, ho, fresh, hshift⟩ := hs
  obtain ⟨r, h, hr, hhandle, hwritable, hobject⟩ := hw
  obtain ⟨file, hfile, rfl⟩ := Option.map_eq_some_iff.mp hobject
  have hw' : s'.WritesTo name file.object := by
    refine ⟨r, h, hregions ▸ hr, hhandle, hwritable, ?_⟩
    rw [objectOf?, hshift.file?_eq List.not_mem_nil ⟨file, hfile⟩]
    exact hobject
  have hsame := (hshift.sealing file.object hlt).length
  exact (take_writes hcopy (hregions ▸ hdest) ho hsound hmode hvalid hg (hsame ▸ hlength)).mono
    fun _ _ hs'' => ⟨hs''.2 name _ hw', hs''.1⟩

private theorem writesTo_of_duplicate {name held dest : String} (hs : InCustody True loose hand s)
    (ho : s.system.kernel.Obliging) (hlimit : s.system.kernel.limit = none)
    (hw : s.WritesTo name o) (hheld : s.handles.get? held = none)
    (hdest : s.regions.get? dest = none) :
    ∃ header, ((takeDuplicate name held dest header).foldl NativeStep.run s).WritesTo name o ∧
      ((takeDuplicate name held dest header).foldl NativeStep.run s).WritesTo dest o := by
  obtain ⟨header, h, hsource, hsound, hg, hmode, hvalid, hlength⟩ := hs.writer hw
  have hduplicate : (duplicateHandle (.region name) held none).Yields s fun _ s' =>
      Doubles held o s s' := by
    refine .bind (.holderSome hsource (.bind (.act
      (((LawfulBacking.duplicate_succeeds h _ (fun _ => hsound.isOpen) ho hlimit).and
        (LawfulBacking.duplicate_yields h _ fun _ => hsound.isOpen)).mono ?_))))
    intro outcome k' hk' system hsys
    obtain ⟨⟨⟨copy, rfl⟩, ho'⟩, hshift, -, hcopies⟩ := hk'
    subst hsys
    exact .bind (.putHandle hheld (.bind (.viewHandle fun _ => .pure
      ⟨⟨copy, by rw [Slots.get?_put, if_pos rfl], hcopies.sound hshift hsound,
        (hcopies.grants_iff hshift hsound).mpr hg⟩, rfl, ho', _, hshift⟩)))
  exact ⟨header, hduplicate.take hw hdest hg.refers.lt hmode hvalid hlength⟩

/-- Likewise for a pair that is put together of two loose descriptors of an object with a writable
region. -/
private theorem writesTo_of_join {s : Session DescriptorPair} {first spare name held dest : String}
    {d d' : Descriptor} (guid : Guid) (hs : LooseCustody False [] s) (ho : s.system.kernel.Obliging)
    (hlimit : s.system.kernel.limit = none) (hd : s.loose.get? first = some d)
    (hd' : s.loose.get? spare = some d')
    (hg : Grants s.system.kernel (⟨d, some d'⟩ : DescriptorPair) o .writable)
    (hlength : 0 < (s.system.kernel.object o).length) (hw : s.WritesTo name o)
    (hheld : s.handles.get? held = none) (hdest : s.regions.get? dest = none) :
    ((takeJoined first spare held dest ⟨.writable, 1, guid⟩).foldl PairStep.run s).WritesTo name o ∧
      ((takeJoined first spare held dest ⟨.writable, 1, guid⟩).foldl PairStep.run s).WritesTo
        dest o := by
  have hsound : Sound s.system.kernel (⟨d, some d'⟩ : DescriptorPair) :=
    sound_pair (hs.kept hd).sound (hs.kept hd').sound
  have hopen := (hs.kept hd').sound.isOpen (descriptor_mem (⟨d', none⟩ : DescriptorPair))
  have hjoin : (join first (some spare) held).Yields s fun _ s' => Doubles held o s s' := by
    obtain ⟨id, hid⟩ := hopen.fileId?
    obtain ⟨copy, k', hcall, ho', -⟩ := duplicate_of_fileId? ho hlimit hid
    obtain ⟨hshift, hid'⟩ := Shift.of_duplicate hopen hcall
    have hcopies : Copies s.system.kernel (⟨d, some d'⟩ : DescriptorPair) k'
        (⟨d, some copy⟩ : DescriptorPair) :=
      ⟨hshift.file?_eq List.not_mem_nil (hsound.isOpen List.mem_cons_self),
        congrArg some (hshift.file?_eq_of_fileId? hopen hid')⟩
    refine .bind (.heldSome hd (.bind (.heldSome hd' (.bind (.act (.attemptSome hcall
      fun system hsys => .bind (.pure (.bind (.modify (.bind (.putHandle hheld
        (.bind (.viewHandle fun _ => .pure ?_)))))))))))))
    subst hsys
    exact ⟨⟨⟨d, some copy⟩, by rw [Slots.get?_put, if_pos rfl], hcopies.sound hshift hsound,
      (hcopies.grants_iff hshift hsound).mpr hg⟩, rfl, ho', _, hshift⟩
  exact hjoin.take hw hdest hg.refers.lt rfl rfl hlength

/-- Likewise for a handle that is made of a clone of the descriptor of a writable region. -/
private theorem writesTo_of_clone {s : Session SealedFile} {name loose held dest : String}
    (hs : LooseCustody True [] s) (ho : s.system.kernel.Obliging)
    (hlimit : s.system.kernel.limit = none) (hw : s.WritesTo name o)
    (hloose : s.loose.get? loose = none) (hheld : s.handles.get? held = none)
    (hdest : s.regions.get? dest = none) :
    ∃ header, ((takeClone name loose held dest header).foldl SealedStep.run s).WritesTo name o ∧
      ((takeClone name loose held dest header).foldl SealedStep.run s).WritesTo dest o := by
  obtain ⟨header, h, hsource, hsound, hg, hmode, hvalid, hlength⟩ := hs.keeps.writer hw
  have hopen := hsound.isOpen (descriptor_mem h)
  obtain ⟨id, hid⟩ := hopen.fileId?
  obtain ⟨copy, k', hcall, ho', -⟩ := duplicate_of_fileId? ho hlimit hid
  obtain ⟨hshift, hid'⟩ := Shift.of_duplicate hopen hcall
  have hcopies : Copies s.system.kernel h k' (⟨copy⟩ : SealedFile) :=
    ⟨hshift.file?_eq_of_fileId? hopen hid', rfl⟩
  have hclone : (cloneBorrowed (.region name) false loose).Yields s fun _ s' =>
      s'.loose.get? loose = some copy ∧ s'.handles = s.handles ∧ s'.regions = s.regions ∧
        s'.system.kernel = k' := by
    refine .bind (.holderSome hsource (.bind (.act (.attemptSome hcall
      fun system hsys => .bind (.putDescriptor hloose (.bind (.viewDescriptor fun _ => .pure
        ⟨by rw [Slots.get?_put, if_pos rfl], rfl, rfl, hsys⟩)))))))
  obtain ⟨hcopy, hhandles, hregions, hk'⟩ := hclone
  have henclose : (enclose loose held).Yields ((cloneBorrowed (.region name) false loose).leave s)
      fun _ s' => Doubles held o s s' := by
    refine .bind (.heldSome hcopy (.bind (.modify (.bind (.putHandle (hhandles ▸ hheld)
      (.viewHandle fun _ => ?_))))))
    subst hk'
    exact ⟨⟨⟨copy⟩, by rw [Slots.get?_put, if_pos rfl], hcopies.sound hshift hsound,
      (hcopies.grants_iff hshift hsound).mpr hg⟩, hregions, ho', _, hshift⟩
  exact ⟨header, henclose.take hw hdest hg.refers.lt hmode hvalid hlength⟩

/-- Writable regions are sole writers as long as no step multiplies writers, and the steps of
regions never do. Where there is neither a plan nor a limit, a step that multiplies writers leads
to a second writable region of one object. -/
theorem soleWriters_unless_multiplied {s : Session SealedFile} {p : Session DescriptorPair}
    {steps : List NativeStep} {pairSteps : List PairStep} (hregions : s.regions = .empty)
    (hhandles : s.handles = .empty) (hrun : Avoids NativeStep.run NativeStep.Multiplies s steps)
    (hregions' : p.regions = .empty) (hhandles' : p.handles = .empty) (hloose' : p.loose = .empty)
    (hrun' : Avoids PairStep.run PairStep.Multiplies p pairSteps) :
    ((steps.foldl NativeStep.run s).SoleWriters ∧
      (pairSteps.foldl PairStep.run p).SoleWriters) ∧
    (∀ (t : Session SealedFile) (name held dest : String) (o : ObjectId),
      t = steps.foldl NativeStep.run s →
      t.system.kernel.Obliging → t.system.kernel.limit = none → t.WritesTo name o →
      t.handles.get? held = none → t.regions.get? dest = none →
        ∃ header, ((takeDuplicate name held dest header).foldl NativeStep.run t).WritesTo name o ∧
          ((takeDuplicate name held dest header).foldl NativeStep.run t).WritesTo dest o) ∧
    (∀ (t : Session DescriptorPair) (natives : List NativeStep) (name held dest : String)
        (o : ObjectId),
      Avoids NativeStep.run NativeStep.Multiplies p natives → t = natives.foldl NativeStep.run p →
      t.system.kernel.Obliging → t.system.kernel.limit = none → t.WritesTo name o →
      t.handles.get? held = none → t.regions.get? dest = none →
        ∃ header, ((takeDuplicate name held dest header).foldl NativeStep.run t).WritesTo name o ∧
          ((takeDuplicate name held dest header).foldl NativeStep.run t).WritesTo dest o) ∧
    (∀ (t : Session DescriptorPair) (first spare name held dest : String) (d d' : Descriptor)
        (o : ObjectId) (guid : Guid), t = pairSteps.foldl PairStep.run p →
      t.system.kernel.Obliging → t.system.kernel.limit = none → t.loose.get? first = some d →
      t.loose.get? spare = some d' →
      Grants t.system.kernel (⟨d, some d'⟩ : DescriptorPair) o .writable →
      0 < (t.system.kernel.object o).length → t.WritesTo name o →
      t.handles.get? held = none → t.regions.get? dest = none →
        ((takeJoined first spare held dest ⟨.writable, 1, guid⟩).foldl PairStep.run t).WritesTo
            name o ∧
          ((takeJoined first spare held dest ⟨.writable, 1, guid⟩).foldl PairStep.run t).WritesTo
            dest o) ∧
    (∀ (q t : Session SealedFile) (sealedSteps : List SealedStep), q.regions = .empty →
      q.handles = .empty → q.loose = .empty →
      Avoids SealedStep.run SealedStep.Multiplies q sealedSteps →
      t = sealedSteps.foldl SealedStep.run q →
        t.SoleWriters ∧ ∀ (name loose held dest : String) (o : ObjectId),
          t.system.kernel.Obliging → t.system.kernel.limit = none → t.WritesTo name o →
          t.loose.get? loose = none → t.handles.get? held = none → t.regions.get? dest = none →
            ∃ header,
              ((takeClone name loose held dest header).foldl SealedStep.run t).WritesTo name o ∧
              ((takeClone name loose held dest header).foldl SealedStep.run t).WritesTo
                dest o) := by
  have native : ∀ {H : Type} [Backing H] [Rights H] [LawfulBacking H] {s : Session H}
      {steps : List NativeStep}, s.regions = .empty → s.handles = .empty →
      Avoids NativeStep.run NativeStep.Multiplies s steps →
        InCustody True s.loose [] (steps.foldl NativeStep.run s) :=
    fun hregions hhandles hrun => invariant_of_avoids (fun _ step hs => hs.native step)
      (inCustody_of_empty hregions hhandles) hrun
  have hsealed := native hregions hhandles hrun
  have hpairs : LooseCustody False [] (pairSteps.foldl PairStep.run p) :=
    invariant_of_avoids (fun _ step hs => hs.pair step)
      (.of_empty hregions' hhandles' hloose') hrun'
  refine ⟨⟨hsealed.soleWriters, hpairs.keeps.soleWriters⟩, ?_, ?_, ?_, ?_⟩
  · rintro _ name held dest o rfl
    exact writesTo_of_duplicate hsealed
  · rintro _ natives name held dest o hnatives rfl
    exact writesTo_of_duplicate (native hregions' hhandles' hnatives)
  · rintro _ first spare name held dest d d' o guid rfl
    exact writesTo_of_join guid hpairs
  · rintro q _ sealedSteps hregions hhandles hloose hrun rfl
    have hs : LooseCustody True [] (sealedSteps.foldl SealedStep.run q) :=
      invariant_of_avoids (fun _ step hs => hs.sealed step)
        (.of_empty hregions hhandles hloose) hrun
    exact ⟨hs.keeps.soleWriters, fun _ _ _ _ _ => writesTo_of_clone hs⟩

/-- A second region of a shared object, by way of a native duplicate, beside a writable region. -/
def sharingSteps : List NativeStep :=
  [.basic (.create .writable 4096 .host "first"), .basic (.create .shared 4096 .host "second"),
    .duplicateHandle (.region "second") "handle",
    .basic (.take "handle" ⟨.shared, 4096, .nil⟩ "third")]

/-- The same by way of a clone of the descriptor. -/
def cloningSteps : List SealedStep :=
  [.basic (.create .writable 4096 .host "first"), .basic (.create .shared 4096 .host "second"),
    .loose (.cloneBorrowed (.region "second") false "loose"), .enclose "loose" "handle",
    .basic (.take "handle" ⟨.shared, 4096, .nil⟩ "third")]

/-- Two regions of a shared object and a writable region are taken apart. -/
def looseSteps : List PairStep :=
  [.basic (.create .shared 4096 .host "a"), .basic (.duplicate "a" "b"),
    .basic (.create .writable 4096 .host "c"), .basic (.takeHandle "a" "h"), .takeApart "h" "a" "x",
    .basic (.takeHandle "b" "h"), .takeApart "h" "b" "x", .basic (.takeHandle "c" "h"),
    .takeApart "h" "c" "spare"]

/-- A descriptor of the shared object becomes a writable region, with the reserve of the other. -/
def joiningSteps : List PairStep :=
  looseSteps ++ takeJoined "a" "spare" "h" "first" ⟨.writable, 4096, .nil⟩

private theorem not_mem_holdings {s : Session DescriptorPair}
    (hregions : s.regions.values.all (·.handle.isNone) = true)
    (hhandles : s.handles.values.isEmpty = true) {x : Holding DescriptorPair} :
    x ∉ s.holdings := by
  intro hx
  rcases List.mem_append.mp hx with hx | hx
  · obtain ⟨r, hr, hx⟩ := List.mem_flatMap.mp hx
    rw [Region.holdings_of_none (Option.isNone_iff_eq_none.mp (List.all_eq_true.mp hregions r hr))]
      at hx
    cases hx
  · obtain ⟨h, hh, -⟩ := List.mem_flatMap.mp hx
    rw [List.isEmpty_iff.mp hhandles] at hh
    cases hh

private theorem avoids_joiningSteps :
    Avoids PairStep.run PairStep.Multiplies ({} : Session DescriptorPair) joiningSteps := by
  have hnone : (looseSteps.foldl PairStep.run ({} : Session DescriptorPair)).regions.values.all
      (·.handle.isNone) = true := by decide +kernel
  have hempty : (looseSteps.foldl PairStep.run ({} : Session DescriptorPair)).handles.values.isEmpty
      = true := by decide +kernel
  refine ⟨id, id, id, id, id, id, id, id, id, ?_, id, trivial⟩
  -- All regions are invalid and no handle is kept, so there is no writer yet.
  rintro ⟨_, _, _, -, -, -, holder, h, hholder, -⟩
  obtain ⟨header, hmem⟩ := mem_holdings_of_holder? hholder
  exact not_mem_holdings hnone hempty hmem

private theorem avoids_sharingSteps :
    Avoids NativeStep.run NativeStep.Multiplies ({} : Session SealedFile) sharingSteps := by
  refine ⟨id, id, ?_, id, trivial⟩
  rintro ⟨h, o, hh, access, hfile, -, hadmits⟩
  obtain rfl : (⟨⟨1⟩⟩ : SealedFile) = h := Option.some.inj hh
  obtain ⟨rfl, rfl⟩ : 1 = o ∧ Access.readWrite = access := OpenFile.mk.inj (Option.some.inj hfile)
  cases hadmits

private theorem avoids_cloningSteps :
    Avoids SealedStep.run SealedStep.Multiplies ({} : Session SealedFile) cloningSteps := by
  refine ⟨id, id, ?_, id, id, trivial⟩
  rintro ⟨h, d, o, hh, hd, access, hfile, -, hadmits⟩
  obtain rfl : (⟨⟨1⟩⟩ : SealedFile) = h := Option.some.inj hh
  obtain rfl : ⟨1⟩ = d := Option.some.inj hd
  obtain ⟨rfl, rfl⟩ : 1 = o ∧ Access.readWrite = access := OpenFile.mk.inj (Option.some.inj hfile)
  cases hadmits

/-- A writable region is made, its handle is duplicated, and the duplicate is taken. -/
def duplicateSteps : List NativeStep :=
  .basic (.create .writable 4096 .host "first") ::
    takeDuplicate "first" "handle" "second" ⟨.writable, 4096, .nil⟩

theorem not_soleWriters_of_duplicate :
    ¬ (duplicateSteps.foldl NativeStep.run ({} : Session SealedFile)).SoleWriters ∧
      ¬ (duplicateSteps.foldl NativeStep.run ({} : Session DescriptorPair)).SoleWriters := by
  refine ⟨fun h => ?_, fun h => ?_⟩
  · exact absurd (h "first" "second" 0 ⟨_, _, rfl, rfl, rfl, rfl⟩ ⟨_, _, rfl, rfl, rfl, rfl⟩)
      (by decide)
  · exact absurd (h "first" "second" 0 ⟨_, _, rfl, rfl, rfl, rfl⟩ ⟨_, _, rfl, rfl, rfl, rfl⟩)
      (by decide)

set_option maxRecDepth 4000 in
theorem soleWriters_of_sharing_and_joining :
    ((sharingSteps.foldl NativeStep.run ({} : Session SealedFile)).SoleWriters ∧
      (joiningSteps.foldl PairStep.run ({} : Session DescriptorPair)).SoleWriters) ∧
    (∃ header, ((takeDuplicate "first" "handle" "fourth" header).foldl NativeStep.run
      (sharingSteps.foldl NativeStep.run ({} : Session SealedFile))).WritesTo "fourth" 0) ∧
    (∃ header, ((takeDuplicate "first" "handle" "second" header).foldl NativeStep.run
      ([.basic (.create .writable 4096 .host "first")].foldl NativeStep.run
        ({} : Session DescriptorPair))).WritesTo "second" 0) ∧
    ((takeJoined "b" "spare" "h" "second" ⟨.writable, 1, .nil⟩).foldl PairStep.run
      (joiningSteps.foldl PairStep.run ({} : Session DescriptorPair))).WritesTo "second" 0 ∧
    (cloningSteps.foldl SealedStep.run ({} : Session SealedFile)).SoleWriters ∧
    (∃ header, ((takeClone "first" "loose" "handle" "fourth" header).foldl SealedStep.run
      (cloningSteps.foldl SealedStep.run ({} : Session SealedFile))).WritesTo "fourth" 0) := by
  obtain ⟨hsole, hduplicate, hduplicate', hjoin, hclone⟩ := soleWriters_unless_multiplied
    (s := {}) (p := {}) rfl rfl avoids_sharingSteps rfl rfl rfl avoids_joiningSteps
  obtain ⟨hsole', hclone⟩ := hclone {} _ cloningSteps rfl rfl rfl avoids_cloningSteps rfl
  refine ⟨hsole, ?_, ?_, ?_, hsole', ?_⟩
  · obtain ⟨header, -, hwrites⟩ := hduplicate _ "first" "handle" "fourth" 0 rfl (fun _ _ => rfl)
      rfl ⟨_, _, rfl, rfl, rfl, rfl⟩ rfl rfl
    exact ⟨header, hwrites⟩
  · obtain ⟨header, -, hwrites⟩ := hduplicate' _ [.basic (.create .writable 4096 .host "first")]
      "first" "handle" "second" 0 ⟨id, trivial⟩ rfl (fun _ _ => rfl) rfl
      ⟨_, _, rfl, rfl, rfl, rfl⟩ rfl rfl
    exact ⟨header, hwrites⟩
  · refine (hjoin _ "b" "spare" "first" "h" "second" _ _ 0 .nil rfl (fun _ _ => rfl) rfl rfl rfl ?_
      (by decide +kernel) ⟨_, _, rfl, rfl, rfl, rfl⟩ rfl rfl).2
    exact ⟨.readWrite, rfl, ⟨rfl, rfl⟩, rfl, rfl⟩
  · obtain ⟨header, -, hwrites⟩ := hclone "first" "loose" "handle" "fourth" 0 (fun _ _ => rfl) rfl
      ⟨_, _, rfl, rfl, rfl, rfl⟩ rfl rfl rfl
    exact ⟨header, hwrites⟩

end Session

end SharedMemory
