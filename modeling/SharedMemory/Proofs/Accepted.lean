import SharedMemory.Proofs.Session.Objects
import SharedMemory.Proofs.Window
import SharedMemory.Session.SealedFiles
/-!
# Regions accepted from elsewhere

A region of a sealed file that was received from elsewhere is accepted if its object has enough
bytes at that moment. Whether it goes on having them depends on the seal against shrinking, which
nobody asks for: an object with that seal keeps its bytes whatever happens to it, and from one
without it anybody who has a descriptor for writing can take them away at once.
-/
namespace SharedMemory.Session

open Kernel

/-- From a session on, whatever turns are taken, an object has all the bytes of a region, and each
window of the region that is granted shows bytes inside of the object for ever. -/
structure BackedFrom (s : Session SealedFile) (r : Region SealedFile) (o : ObjectId) : Prop where
  length (turns : List Turn) : r.size ≤ ((s.runTurns turns).system.kernel.object o).length
  windows (turns : List Turn) {h : SealedFile} {access : Access} {offset size : Nat}
      {layout : Option Layout} {w : Window} {system : System} :
    r.handle = some h → (s.runTurns turns).system.kernel.file? h.fd = some ⟨o, access⟩ →
      (Window.ofRequest { region := some r, offset, size, layout }).run
        (s.runTurns turns).system = (.ok w, system) →
      ∃ m, system.kernel.mappings.get? w.mapping = some m ∧ m.object = o ∧
        ∀ k', Reaches (fun _ => True) system.kernel k' →
          m.offset + w.viewOffset + w.size ≤ (k'.object o).length

private theorem backedFrom_of_shrink {s : Session SealedFile} {r : Region SealedFile} {o : ObjectId}
    (hkind : (s.system.kernel.object o).kind = .memory)
    (hshrink : (s.system.kernel.object o).seals.shrink = true)
    (hlength : r.size ≤ (s.system.kernel.object o).length) : BackedFrom s r o := by
  have hlater : ∀ {k'}, Reaches (fun _ => True) s.system.kernel k' →
      r.size ≤ (k'.object o).length := by
    intro k' hreach
    exact Nat.le_trans hlength ((hreach.evolves hkind).shrink hshrink)
  refine ⟨fun turns => hlater (runTurns_reaches s turns), ?_⟩
  intro turns h access offset size layout w system hhandle hfile hrun
  have hspans := Window.ofRequest_spans r offset size layout _ (s.runTurns turns).system rfl
  have hreach := Window.ofRequest_calls { region := some r, offset, size, layout }
    (s.runTurns turns).system
  rw [hrun] at hspans hreach
  obtain ⟨h', file, m, hhandle', hfile', hm, hobject, hoffset, hsize, hrange⟩ := hspans w rfl
  obtain rfl : h = h' := Option.some.inj (hhandle.symm.trans hhandle')
  obtain rfl : file = ⟨o, access⟩ := Option.some.inj (hfile'.symm.trans hfile)
  refine ⟨m, hm, hobject, fun k' hk' => ?_⟩
  rw [hoffset, hsize]
  have hmapped : Reaches (fun _ => True) s.system.kernel system.kernel :=
    (runTurns_reaches s turns).trans (hreach.mono fun _ => False.elim)
  exact Nat.le_trans hrange (hlater (hmapped.trans hk'))

/-- Without the seal against shrinking, a descriptor for writing suffices to take all bytes away. -/
private theorem cut_of_not_shrink {k : Kernel} {d : Descriptor} {o : ObjectId} {access : Access}
    (ho : k.Obliging) (hfile : k.file? d = some ⟨o, access⟩) (haccess : access.canWrite = true)
    (hkind : (k.object o).kind = .memory) (hshrink : (k.object o).seals.shrink = false) :
    (((Operation.setLength d 0).perform k).object o).length = 0 := by
  obtain ⟨k', hcall, hk'⟩ := setLength_of_file? (n := 0) ho hfile haccess hkind
    (fun _ => hshrink) fun h => absurd h (Nat.not_lt_zero _)
  change ((Kernel.setLength d (0 : Nat) k).2.object o).length = 0
  rw [hcall, hk'.object, object_modifyObject k _ _ _ (lt_of_kind_memory hkind), if_pos rfl]
  rfl

/-- An accepted region has its bytes at first. With the seal against shrinking it has them for
ever. Without it, whoever has a descriptor for writing can cut the object to nothing, unless the
kernel has reasons of its own to refuse. -/
theorem accepted_backed {s s' : Session SealedFile} {source dest : String} {header : Header}
    {view : RegionView} {o : ObjectId}
    (htake : (take source header dest).run.run s = (some (.ok view), s'))
    (hobject : s'.objectUnder? dest = some o) :
    ∃ r, s'.regions.get? dest = some r ∧ r.header = header ∧ 0 < r.size ∧
      r.size ≤ (s'.system.kernel.object o).length ∧
      ((s'.system.kernel.object o).seals.shrink = true → BackedFrom s' r o) ∧
      ((s'.system.kernel.object o).seals.shrink = false → s'.system.kernel.Obliging →
        ∀ d access, s'.system.kernel.file? d = some ⟨o, access⟩ → access.canWrite = true →
          ((s'.runTurns [.theirs (.setLength d 0)]).system.kernel.object o).length = 0) := by
  obtain ⟨r, hr, hheader, hpos, hspans⟩ := (take_object source header dest s).of_run htake view rfl
  obtain ⟨hkind, hlength⟩ := hspans o hobject
  exact ⟨r, hr, hheader, hpos, hlength, fun hshrink => backedFrom_of_shrink hkind hshrink hlength,
    fun hshrink ho d access hfile haccess => cut_of_not_shrink ho hfile haccess hkind hshrink⟩

/-- A shared region is made and split into its handle and its header. -/
def splitSession : Session SealedFile :=
  ({} : Session SealedFile).runSteps
    [.create .shared 100 .host "region", .split "region" "handle"]

theorem accepted_backed_of_split :
    ∃ view s' r, (take "handle" ⟨.shared, 100, .nil⟩ "region").run.run splitSession =
        (some (.ok view), s') ∧
      s'.regions.get? "region" = some r ∧ r.size = 100 ∧ BackedFrom s' r 0 := by
  obtain ⟨r, hr, hheader, -, -, hsealed, -⟩ :=
    @accepted_backed splitSession _ "handle" "region" ⟨.shared, 100, .nil⟩ _ 0 rfl rfl
  exact ⟨_, _, r, rfl, hr, congrArg Header.size hheader, hsealed rfl⟩

/-- A handle of an object that somebody made without any seals and has a descriptor of. -/
def unsealedSession : Session SealedFile :=
  ((wrap (.memory 4096 true) "handle").leave {}).runTurns [.theirs (.duplicate ⟨0⟩)]

/-- The object of an accepted region can shrink: a region of 4096 bytes is left with none. -/
theorem accepted_can_shrink :
    ∃ view s' r, (take "handle" ⟨.writable, 4096, .nil⟩ "region").run.run unsealedSession =
        (some (.ok view), s') ∧
      s'.objectUnder? "region" = some 0 ∧ s'.regions.get? "region" = some r ∧ r.size = 4096 ∧
      ((s'.runTurns [.theirs (.setLength ⟨1⟩ 0)]).system.kernel.object 0).length = 0 :=
  ⟨_, _, _, rfl, rfl, rfl, rfl, rfl⟩

end SharedMemory.Session
