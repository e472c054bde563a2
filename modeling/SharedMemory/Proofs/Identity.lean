import Mathlib.Data.List.TFAE
import SharedMemory.Proofs.Accounts
import SharedMemory.Proofs.Origins
import SharedMemory.Proofs.Session.Places
/-!
# The identifier of a region tells its object

Regions are given identifiers when they are made, and a handle that leaves a region takes the
identifier along. Where no identifier is drawn twice and every handle becomes a region with the
identifier that it travels with, two valid regions have one identifier if and only if they have one
object, and if and only if their descriptors share an open file.
-/
namespace SharedMemory

open Kernel Script SealedFile

/-- The kernel does not refuse to compare open files. -/
def Kernel.Compares (k : Kernel) : Prop :=
  ∀ a b, k.refusal k.history (.compareFiles a b) = none

private theorem SealedFile.sameFile_iff {y : System} {a b : Descriptor} {f g : FileId}
    (hc : y.kernel.Compares) (ha : y.kernel.fileId? a = some f)
    (hb : y.kernel.fileId? b = some g) : ((sameFile a b).run y).1 = true ↔ f = g := by
  have hanswer : (sameFile a b).Leads y fun same _ => same = true ↔ f = g := by
    unfold sameFile
    split
    · rename_i heq
      subst heq
      obtain rfl := Option.some.inj (ha.symm.trans hb)
      exact .pure (iff_of_true rfl rfl)
    · obtain ⟨k', hcall⟩ := compareFiles_of_open (hc a b) ha hb
      exact .bind (.granted hcall (.pure beq_iff_eq))
  exact hanswer

namespace Session

section

variable {H : Type} [Backing H]

/-- The handle of a region, if it has one, goes under a name with the identifier of the region. -/
def tagged (tags : Slots Guid) (dest : String) (r : Option (Region H)) : Slots Guid :=
  match r.bind Region.parts? with
  | none => tags
  | some (_, header) => tags.put dest header.guid

/-- The identifiers that the handles of a session travel with, after a step. -/
def Step.tags (s : Session H) (tags : Slots Guid) : Step → Slots Guid
  | .takeHandle source dest | .passHandle source dest | .split source dest =>
    tagged tags dest (s.regions.get? source)
  | _ => tags

/-- A handle becomes a region with the identifier that it travels with. -/
def Step.Faithful (s : Session H) (tags : Slots Guid) : Step → Prop
  | .take source header _ =>
    s.handles.contains source = true → tags.get? source = some header.guid
  | _ => True

/-- Each of some steps is faithful. -/
def Faithful (s : Session H) (tags : Slots Guid) : List Step → Prop
  | [] => True
  | step :: rest => step.Faithful s tags ∧ (step.run s).Faithful (step.tags s tags) rest

end

/-- The identifiers of the regions of a session are in step with what they refer to. -/
structure Identifies (s : Session SealedFile) : Prop where
  /-- Regions with one identifier are those with one object and those that compare equal. -/
  agree {a b : String} {ra rb : Region SealedFile} {ha hb : SealedFile} :
    s.regions.get? a = some ra → s.regions.get? b = some rb →
    ra.handle = some ha → rb.handle = some hb →
    [ra.guid = rb.guid,
      ∃ o, s.system.kernel.objectOf? ha.fd = some o ∧ s.system.kernel.objectOf? hb.fd = some o,
      ((sameFile ha.fd hb.fd).run s.system).1 = true].TFAE
  invalid_iff {name : String} {r : Region SealedFile} : s.regions.get? name = some r →
    (r.isValid = false ↔ r.guid = .nil)

variable {first : Supply} {s : Session SealedFile} {tags : Slots Guid} {name : String}
  {r : Region SealedFile}

private theorem tokens_put (tags : Slots Guid) (dest : String) (g : Guid) :
    Inventory.tokens (tags.put dest g) =
      (Inventory.tokens tags).relabel dest fun h => [⟨some h, g⟩] := by
  have hhandle : (Inventory.tokens (tags.put dest g)).handle =
      ((Inventory.tokens tags).relabel dest fun h => [⟨some h, g⟩]).handle := by
    funext other h
    dsimp only [Inventory.tokens, Inventory.relabel]
    rw [Slots.get?_put]
    split
    · rfl
    · rfl
  exact congrArg (fun handle => { Inventory.tokens tags with handle }) hhandle

private theorem tokens_pass (tags : Slots Guid) (dest : String) (r : Option (Region SealedFile)) :
    (Inventory.tokens tags).Passes (Inventory.tokens (tagged tags dest r)) dest r := by
  unfold Inventory.Passes tagged
  cases r with
  | none => rfl
  | some r =>
    rw [Option.bind_some, Option.bind_some, Region.parts?]
    cases hhandle : r.handle with
    | none => rfl
    | some h =>
      refine ⟨_, ?_, tokens_put tags dest r.guid⟩
      dsimp only [Inventory.tokens]
      rw [hhandle]

private theorem Stocked.identified (hs : Stocked (.tokens tags) (Identified first) [] s)
    (step : Step) (hstep : step.Faithful s tags) :
    Stocked (.tokens (step.tags s tags)) (Identified first) [] (step.run s) := by
  have hlast := tokens_last first tags
  cases hhands : step.handsOver with
  | false =>
    have htags : step.tags s tags = tags := by
      cases step with
      | takeHandle | passHandle | split => cases hhands
      | _ => rfl
    rw [htags]
    exact hs.step hlast hhands
  | true =>
    cases step with
    | takeHandle source dest =>
      exact takeHandle_stocked hlast source dest hs (tokens_pass tags dest _)
    | passHandle source dest =>
      exact passHandle_stocked hlast source dest hs (tokens_pass tags dest _)
    | split source dest => exact split_stocked hlast source dest hs (tokens_pass tags dest _)
    | take source header dest =>
      refine take_stocked hlast source header dest hs ?_
      intro h hh y xs hi
      have hcontains : s.handles.contains source = true := by
        rw [Slots.contains, hh, Option.isSome_some]
      have htag : tags.get? source = some header.guid := hstep hcontains
      dsimp only [Inventory.tokens] at hi
      rw [htag, Option.getD_some] at hi
      refine (Region.take_identified h header hi).mono ?_
      intro outcome _ houtcome
      cases outcome with
      | error e => exact houtcome
      | ok r => exact houtcome
    | _ => cases hhands

private theorem Stocked.identifiedSteps {steps : List Step}
    (hs : Stocked (.tokens tags) (Identified first) [] s) (hsteps : s.Faithful tags steps) :
    ∃ tags', Stocked (.tokens tags') (Identified first) [] (s.runSteps steps) := by
  induction steps generalizing s tags with
  | nil => exact ⟨tags, hs⟩
  | cons step rest ih => exact ih (hs.identified step hsteps.1) hsteps.2

private theorem mem_items (hr : s.regions.get? name = some r) :
    (⟨r.handle, r.guid⟩ : Token) ∈ s.items (Inventory.tokens tags) := by
  refine List.mem_append_left _ (List.mem_flatMap.mpr ⟨r, Slots.mem_values_of_get? hr, ?_⟩)
  exact List.mem_singleton_self _

private theorem identifies_of_stocked (hs : Stocked (.tokens tags) (Identified first) [] s)
    (hfresh : first.Fresh s.system.guids.drawn) (hcompares : s.system.kernel.Compares) :
    s.Identifies where
  agree hra hrb hha hhb := by
    obtain ⟨f, g, o, p, hf, hg, ho, hp, hsame⟩ := hs.has.compare hfresh
      (List.mem_append_right _ (mem_items hra)) (List.mem_append_right _ (mem_items hrb)) hha hhb
    rw [sameFile_iff hcompares hf hg, ho, hp]
    rcases hsame with ⟨hguid, rfl, rfl⟩ | ⟨hguid, hfile, hobject⟩
    · refine List.tfae_of_forall True _ fun x hx => iff_of_true ?_ trivial
      simp only [List.mem_cons, List.not_mem_nil, or_false] at hx
      rcases hx with rfl | rfl | rfl
      · exact hguid
      · exact ⟨o, rfl, rfl⟩
      · trivial
    · refine List.tfae_of_forall False _ fun x hx => iff_of_false ?_ id
      simp only [List.mem_cons, List.not_mem_nil, or_false] at hx
      rcases hx with rfl | rfl | rfl
      · exact hguid
      · rintro ⟨o', ho', hp'⟩
        exact hobject (Option.some.inj (ho'.trans hp'.symm))
      · exact hfile
  invalid_iff hr := by
    have hnil := hs.has.guid_eq_nil_iff hfresh (List.mem_append_right _ (mem_items hr))
    rw [hnil, Region.isValid, Option.isSome_eq_false_iff, Option.isNone_iff_eq_none]

private theorem identified_of_ownsNothing (hs : s.OwnsNothing) :
    Stocked (.tokens .empty) (Identified s.system.guids) [] s := by
  refine stocked_of_empty hs.regions hs.handles hs.loose ⟨rfl, Nat.le_refl _, .nil, [], ?_, nofun⟩
  exact ⟨.nil, nofun, nofun, nofun⟩

/-- In every session that starts with nothing and takes faithful steps, identifiers are in step
with what the regions refer to. From there on a region keeps its identifier as long as it is
valid, wherever it is moved. -/
theorem identifiers_tell_objects (start : Session SealedFile) (hstart : start.OwnsNothing)
    (steps : List Step) (hfaithful : start.Faithful .empty steps)
    (hfresh : start.system.guids.Fresh (start.runSteps steps).system.guids.drawn)
    (hcompares : (start.runSteps steps).system.kernel.Compares) :
    (start.runSteps steps).Identifies ∧
      ∀ name r, (start.runSteps steps).regions.get? name = some r →
        ∀ more place, (start.runSteps steps).places name more = some place →
          ∃ r', ((start.runSteps steps).runSteps more).regions.get? place = some r' ∧
            r'.isValid = r.isValid ∧ r'.guid = r.guid := by
  obtain ⟨tags, hstocked⟩ := (identified_of_ownsNothing hstart).identifiedSteps hfaithful
  refine ⟨identifies_of_stocked hstocked hfresh hcompares, ?_⟩
  intro name r hr more place hplace
  obtain ⟨r', hr', hsame⟩ := keeps_of_places hr hplace
  exact ⟨r', hr', hsame.isValid, hsame.guid⟩

/-- A region is copied and the copy handed over. Another region is made. -/
def familySteps : List Step :=
  [.create .shared 100 .host "first", .duplicate "first" "second", .split "second" "handle",
    .take "handle" ⟨.shared, 100, (Supply.ofSeed 0).draw 0⟩ "third",
    .create .shared 100 .host "other"]

def family : Session SealedFile := ({} : Session SealedFile).runSteps familySteps

private theorem draws_differ : (Supply.ofSeed 0).draw 0 ≠ (Supply.ofSeed 0).draw 1 := by
  decide +kernel

private theorem fresh_family : (Supply.ofSeed 0).Fresh 2 := by
  have hplaces : ∀ i, i < 2 → i = 0 ∨ i = 1 := by omega
  constructor
  · intro i j _ hi _ hj heq
    rcases hplaces i hi with rfl | rfl <;> rcases hplaces j hj with rfl | rfl
    · rfl
    · exact absurd heq draws_differ
    · exact absurd heq.symm draws_differ
    · rfl
  · intro i _ hi
    rcases hplaces i hi with rfl | rfl
    · decide +kernel
    · decide +kernel

/-- A region of the family. -/
def member (number : Int) (place : Nat) : Region SealedFile :=
  ⟨some ⟨⟨number⟩⟩, .shared, 100, (Supply.ofSeed 0).draw place⟩

theorem identifiers_tell_objects_of_family :
    family.Identifies ∧ family.regions.get? "first" = some (member 0 0) ∧
      family.regions.get? "third" = some (member 1 0) ∧
      family.regions.get? "other" = some (member 2 1) ∧
      ((sameFile ⟨0⟩ ⟨1⟩).run family.system).1 = true ∧
      ((sameFile ⟨0⟩ ⟨2⟩).run family.system).1 = false := by
  have hfaithful : ({} : Session SealedFile).Faithful .empty familySteps :=
    ⟨trivial, trivial, trivial, fun _ => rfl, trivial, trivial⟩
  have hidentifies : family.Identifies :=
    (identifiers_tell_objects {} ⟨rfl, rfl, rfl⟩ familySteps hfaithful fresh_family
      fun _ _ => rfl).1
  have hfirst : family.regions.get? "first" = some (member 0 0) := rfl
  have hthird : family.regions.get? "third" = some (member 1 0) := rfl
  have hother : family.regions.get? "other" = some (member 2 1) := rfl
  refine ⟨hidentifies, hfirst, hthird, hother, ?_, ?_⟩
  · exact ((hidentifies.agree hfirst hthird rfl rfl).out 0 2).mp rfl
  · rw [← Bool.not_eq_true]
    intro hsame
    exact draws_differ (((hidentifies.agree hfirst hother rfl rfl).out 2 0).mp hsame)

end Session

end SharedMemory
