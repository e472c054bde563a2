import SharedMemory.Journal
import SharedMemory.Text.Blank
/-!
# Record filters

A filter is given as directives, separated by commas, and after a slash a text that every printed
record must contain. A directive sets the level for the targets that begin with its name, or for
all targets if it has no name; the longest name decides. What cannot be read is left out, with a
warning.
-/
namespace SharedMemory

/-- The gravity down to which records pass. Without a level nothing passes. -/
abbrev Threshold := Option Level

namespace Threshold

def rank : Threshold → Nat
  | none => 0
  | some l => l.rank

def name : Threshold → String
  | none => "OFF"
  | some l => l.name

/-- The thresholds from the strictest on. -/
def all : List Threshold := none :: Level.all.map some

/-- Reads the name of a threshold in any case. -/
def read? (cs : List Char) : Option Threshold :=
  let lower := cs.map Char.toLower
  all.find? fun t => t.name.toList.map Char.toLower == lower

def passes (t : Threshold) (l : Level) : Bool := l.rank ≤ t.rank

/-- The most verbose of some thresholds. -/
def max (ts : List Threshold) : Threshold :=
  ts.foldl (fun best t => if rank best < rank t then t else best) none

end Threshold

structure Directive where
  name : Option String
  threshold : Threshold
  deriving DecidableEq, Repr

namespace Directive

/-- The size of the name in bytes. -/
def weight (d : Directive) : Nat := (d.name.getD "").utf8ByteSize

def covers (d : Directive) (target : String) : Bool :=
  match d.name with
  | none => true
  | some name => name.toList.isPrefixOf target.toList

def warning (spec : List Char) : String :=
  "warning: invalid logging spec '" ++ String.ofList spec ++ "', ignoring it"

/-- Reads one directive, or says what is wrong with it. -/
def read (spec : List Char) : Except String Directive :=
  match spec.splitOn '=' with
  | [only] =>
    match Threshold.read? only with
    | some t => .ok ⟨none, t⟩
    | none => .ok ⟨some (String.ofList only), some .trace⟩
  | [name, level] =>
    let level := Text.trim level
    if level.isEmpty then .ok ⟨some (String.ofList name), some .trace⟩
    else
      match Threshold.read? level with
      | some t => .ok ⟨some (String.ofList name), t⟩
      | none => .error (warning level)
  | _ => .error (warning spec)

/-- Adds a directive. One for the same name is replaced in its place. -/
def insert (d : Directive) : List Directive → List Directive
  | [] => [d]
  | e :: rest => if e.name = d.name then d :: rest else e :: insert d rest

end Directive

/-- Directives in the order of their weights, and the text to look for. -/
structure Filter where
  directives : List Directive
  text : Option String := none
  deriving DecidableEq, Repr

namespace Filter

/-- Orders directives. Without any, only errors pass. -/
def ofDirectives (ds : List Directive) (text : Option String) : Filter :=
  let inserted := ds.foldl (fun all d => d.insert all) []
  let chosen := if inserted.isEmpty then [⟨none, some .error⟩] else inserted
  ⟨chosen.mergeSort fun a b => a.weight ≤ b.weight, text⟩

/-- The directives of a list and the warnings that go with it. -/
def readDirectives (spec : List Char) : List Directive × List String :=
  let specs := (spec.splitOn ',').map Text.trim |>.filter (!·.isEmpty)
  let outcomes := specs.map Directive.read
  (outcomes.filterMap fun o => match o with | .ok d => some d | .error _ => none,
    outcomes.filterMap fun o => match o with | .ok _ => none | .error w => some w)

/-- Reads a filter. The second part holds the warnings. -/
def read (spec : String) : Filter × List String :=
  match spec.toList.splitOn '/' with
  | [] => (ofDirectives [] none, [])
  | [list] =>
    let (ds, warnings) := readDirectives list
    (ofDirectives ds none, warnings)
  | [list, text] =>
    let (ds, warnings) := readDirectives list
    (ofDirectives ds (some (String.ofList text)), warnings)
  | _ => (ofDirectives [] none,
      ["warning: invalid logging spec '" ++ spec ++ "', ignoring it (too many '/'s)"])

/-- The most verbose level that may pass. -/
def maxLevel (f : Filter) : Threshold := Threshold.max (f.directives.map (·.threshold))

/-- Whether records of a level and a target pass, leaving their text aside. The last of the
directives that cover the target decides. -/
def enables (f : Filter) (level : Level) (target : String) : Bool :=
  match f.directives.reverse.find? (·.covers target) with
  | some d => d.threshold.passes level
  | none => false

def passes (f : Filter) (r : Record) : Bool :=
  f.enables r.level r.target &&
    match f.text with
    | none => true
    | some t => Text.occursIn t.toList r.text.toList

end Filter

end SharedMemory
