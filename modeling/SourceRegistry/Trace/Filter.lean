import SourceRegistry.Settings.Scalar
import SourceRegistry.Text.Alphanumeric
import SourceRegistry.Text.Lowercase
import SourceRegistry.Trace.Event
import SourceRegistry.Trace.Pattern.Reader

/-!
# Filters

A filter says from which level on the events of a target are reported. Its text is a list of
directives with commas: a level for everything, a target with a level, or a target alone, which
reports everything of it. Of the directives whose targets an event's target starts with, the
longest counts. A directive may also be about spans, by their name or by a field that they have:
such spans are shown, and inside of them the directive adds to what the others report.
-/

namespace SourceRegistry.Trace

/-- The least level that is reported, or none at all. -/
inductive Threshold where
  | off
  | from_ (l : Level)
  deriving DecidableEq, Repr

namespace Threshold

/-- The thresholds, the one that reports least first. -/
def all : List Threshold :=
  [.off, .from_ .error, .from_ .warn, .from_ .info, .from_ .debug, .from_ .trace]

def name : Threshold → String
  | .off => "off"
  | .from_ l => Text.lowerAscii l.name

/-- The threshold of a word in any letter case, or of its number. -/
def ofText? (s : String) : Option Threshold :=
  match Setting.countText? s with
  | some n => all[n]?
  | none => all.find? (·.name = Text.lowerAscii s)

def allows : Threshold → Level → Bool
  | .off, _ => false
  | .from_ least, l => least.rank ≤ l.rank

/-- The threshold that reports more. -/
def max : Threshold → Threshold → Threshold
  | .off, t => t
  | t, .off => t
  | .from_ l, .from_ m => .from_ (if l.rank ≤ m.rank then l else m)

end Threshold

/-- A kind of span: its name, the part of the service that opens it, its level, and its fields. -/
structure Scope where
  name : String
  target : String
  level : Level
  fields : List (String × String)
  deriving DecidableEq, Repr

/-- What the value of a field must be: a truth value or a number, which the text of no field is, or
something that matches a pattern. -/
inductive ValueTest where
  | single (text : String)
  | pattern (p : Pattern)
  deriving DecidableEq, Repr

/-- That a span has a field, with a certain value if one is given. -/
structure FieldTest where
  name : String
  value : Option ValueTest
  deriving DecidableEq, Repr

namespace ValueTest

def ofText? (s : String) : Option ValueTest :=
  if s = "true" ∨ s = "false" ∨ (Binary64.ofText? s).isSome then some (.single s)
  else (Pattern.ofText? s).map .pattern

def accepts : ValueTest → String → Bool
  | .single _, _ => false
  | .pattern p, s => p.accepts s

end ValueTest

namespace FieldTest

/-- A name, with a value behind the first equals sign. -/
def ofText? (s : String) : Option FieldTest :=
  match Text.split '=' s with
  | name :: value :: _ => (ValueTest.ofText? value).map (⟨name, some ·⟩)
  | names => some ⟨"".intercalate names, none⟩

def accepts (t : FieldTest) (c : Scope) : Bool :=
  match t.value with
  | none => true
  | some v => (c.fields.lookup t.name).any v.accepts

end FieldTest

/-! ## Directives -/

/-- A threshold for the targets that start with a text, inside spans of a name or with a field if
these are given. -/
structure Directive where
  target : String
  span : Option String
  field : Option FieldTest
  threshold : Threshold
  deriving DecidableEq, Repr

namespace Directive

def isTargetStart (c : Char) : Bool := c = '_' || c = '-' || c = ':' || Text.isAlphanumeric c

/-- The number of bytes that a text takes. -/
def byteCount (cs : List Char) : Nat := cs.foldl (fun n c => n + c.utf8Size) 0

/-- The text behind a number of bytes, if that is where a character starts. -/
def behindBytes? : Nat → List Char → Option (List Char)
  | 0, cs => some cs
  | _, [] => none
  | n, c :: cs => if c.utf8Size ≤ n then behindBytes? (n - c.utf8Size) cs else none

/-- A directive is read without the white space around it, but its parts are cut out of its text
with that, at the same places. -/
structure Source where
  text : List Char
  /-- The number of bytes of the directive that have been read. -/
  place : Nat := 0
  /-- What is left of the directive. -/
  rest : List Char

namespace Source

def ofText (cs : List Char) : Source := { text := cs, rest := Text.trimChars cs }

def skip (s : Source) (n : Nat) : Source :=
  { s with place := s.place + byteCount (s.rest.take n), rest := s.rest.drop n }

/-- The text from the place on. -/
def tail? (s : Source) : Option String := (behindBytes? s.place s.text).map String.ofList

/-- The text up to one of some characters, which must follow it. -/
def upTo? (s : Source) (ends : List Char) : Option (String × Source) := do
  let next := s.skip (s.rest.takeWhile fun c => !ends.contains c).length
  let part ← behindBytes? s.place s.text
  let behind ← behindBytes? next.place s.text
  if next.rest.isEmpty then none
  some (String.ofList (part.take (part.length - behind.length)), next)

end Source

/-- The threshold behind a target or a span: everything, unless a level follows. -/
def level? (s : Source) : Option Threshold :=
  match s.rest with
  | [] => some (.from_ .trace)
  | '=' :: _ => do
    let text ← (s.skip 1).tail?
    if text = "" then some (.from_ .trace) else Threshold.ofText? text
  | _ => none

/-- A target with a span behind its bracket. -/
def ofSpan? (target : String) (s : Source) : Option Directive := do
  let (name, s) ← s.upTo? [']', '{']
  let span := if name = "" then none else some name
  if s.rest.head? = some ']' then some ⟨target, span, none, ← level? (s.skip 1)⟩
  else
    let (test, s) ← (s.skip 1).upTo? ['}']
    let s := s.skip 1
    if test = "" ∨ s.rest.head? ≠ some ']' then none
    some ⟨target, span, some (← FieldTest.ofText? test), ← level? (s.skip 1)⟩

def ofChars? (cs : List Char) : Option Directive :=
  let s := Source.ofText cs
  match s.rest with
  | [] => none
  | '[' :: _ => ofSpan? "" (s.skip 1)
  | c :: rest =>
    if !isTargetStart c then none
    else if rest.any fun c => c = '=' || c = '[' then do
      let (target, s) ← s.upTo? ['=', '[']
      if s.rest.head? = some '[' then ofSpan? target (s.skip 1)
      else some ⟨target, none, none, ← level? s⟩
    else
      let text := String.ofList cs
      match Threshold.ofText? text with
      | some t => some ⟨"", none, none, t⟩
      | none => some ⟨text, none, none, .from_ .trace⟩

/-- Whether a directive is about spans. -/
def isDynamic (d : Directive) : Bool := d.span.isSome || d.field.isSome

/-- Whether a directive counts for all events: it need not know in which spans they are. -/
def isStatic (d : Directive) : Bool := d.span.isNone && d.field.all (·.value.isNone)

/-- Whether two directives are about the same spans and targets. -/
def isLike (d e : Directive) : Bool :=
  d.target = e.target && d.span = e.span && d.field = e.field

def startsTarget (d : Directive) (target : String) : Bool :=
  d.target.toList.isPrefixOf target.toList

/-- Whether a directive is about a kind of span. -/
def covers (d : Directive) (c : Scope) : Bool :=
  d.isDynamic && d.startsTarget c.target && d.span.all (· = c.name)
    && d.field.all fun t => (c.fields.lookup t.name).isSome

/-- The name of the field that a directive is about, nothing if there is none. -/
def fieldName (d : Directive) : Option String := d.field.map (·.name)

/-- Whether a directive counts before another for a target that both start: the longer target
counts first, then the one with a field, and the later one of two fields. -/
def precedes (d e : Directive) : Bool :=
  if d.target.length ≠ e.target.length then e.target.length < d.target.length
  else
    match d.fieldName, e.fieldName with
    | some m, some n => n < m
    | some _, none => true
    | none, _ => false

end Directive

abbrev Filter := List Directive

namespace Filter

/-- A filter without directives reports errors. -/
def ofText? (s : String) : Option Filter := do
  let ds ← ((Text.splitChars ',' s.toList).filter (!·.isEmpty)).mapM Directive.ofChars?
  some (if ds.isEmpty then [⟨"", none, none, .from_ .error⟩] else ds)

/-- The directives of which no later one is about the same. -/
def latest : List Directive → List Directive
  | [] => []
  | d :: ds => if ds.any d.isLike then latest ds else d :: latest ds

/-- The directives about spans. -/
def dynamics (f : Filter) : List Directive := latest (f.filter (·.isDynamic))

/-- The better of two directives, the later one if they are equally good. -/
def better (best : Option Directive) (d : Directive) : Option Directive :=
  match best with
  | some b => if b.precedes d then some b else some d
  | none => some d

/-- From which level on something of a target is reported, whatever the spans. Of an event, the
names of the fields are given, and directives about other fields do not count. -/
def threshold (f : Filter) (target : String) (fields : Option (List String)) : Threshold :=
  let counts (d : Directive) : Bool :=
    d.isStatic && d.startsTarget target
      && fields.all fun names => d.fieldName.all (names.contains ·)
  match (f.filter counts).foldl better none with
  | some d => d.threshold
  | none => .off

/-- Whether a filter goes down to a level: it does to all if it is about the values of fields. -/
def reaches (f : Filter) (l : Level) : Bool :=
  f.any (·.threshold.allows l)
    || f.dynamics.any fun d => d.field.any (·.value.isSome)

/-! ### Spans -/

/-- What has been found out about the spans around something: those that are shown, and the
thresholds that hold inside of them. -/
structure Surroundings where
  shown : List Scope := []
  thresholds : List Threshold := []

/-- The threshold that holds inside of a span, if a directive is about it. -/
def opened? (f : Filter) (c : Scope) : Option Threshold :=
  match f.dynamics.filter (·.covers c) with
  | [] => none
  | ds =>
    some ((ds.filter fun d => d.field.all (·.accepts c)).foldl
      (fun t d => t.max d.threshold) .off)

/-- Whether a span is shown inside of others. -/
def shows (f : Filter) (s : Surroundings) (c : Scope) : Bool :=
  f.reaches c.level
    && ((f.opened? c).isSome || s.thresholds.any (·.allows c.level)
      || (f.threshold c.target none).allows c.level)

/-- Goes into a span. -/
def enter (f : Filter) (s : Surroundings) (c : Scope) : Surroundings :=
  if f.shows s c then ⟨s.shown ++ [c], s.thresholds ++ (f.opened? c).toList⟩ else s

/-- Goes into several spans, the outermost first. -/
def enterAll (f : Filter) (cs : List Scope) : Surroundings := cs.foldl f.enter {}

/-- Whether an event inside of spans is reported. -/
def allows (f : Filter) (e : Event) (s : Surroundings) : Bool :=
  f.reaches e.level
    && (s.thresholds.any (·.allows e.level)
      || (f.threshold e.target (some e.fieldNames)).allows e.level)

end Filter

end SourceRegistry.Trace
