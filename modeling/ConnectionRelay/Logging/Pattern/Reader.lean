/-
  ConnectionRelay.Logging.Pattern.Reader
  ──────────────────────────────────────
  **READING PATTERNS.**

  A pattern stands between braces and between commas, so it holds no closing brace,
  and a counted repetition in it is never closed.  Look-around and references back to a
  group are refused.
-/
import ConnectionRelay.Logging.Pattern.Bracket
import ConnectionRelay.Text.Alphanumeric

namespace ConnectionRelay.Logging.Pattern

/-! ## §1. Groups. -/

/-- The start of a group. -/
inductive Opening where
  | group (name : Option (List Char)) (change : FlagChange)
  /-- Flags for what follows. -/
  | flags (change : FlagChange)

/-- May the name of a group begin like this? -/
def isNameStart (c : Char) : Bool := c = '_' || Text.isAlphabetic c

/-- May the name of a group go on like this? -/
def isNameChar (c : Char) : Bool :=
  Text.isAlphanumeric c || ['_', '.', '[', ']'].contains c

/-- Read the name of a group. -/
def name? (cs : List Char) : Option (Opening × List Char) :=
  match cs.takeWhile (· ≠ '>'), cs.dropWhile (· ≠ '>') with
  | c :: name, _ :: rest =>
      if isNameStart c && name.all isNameChar then some (.group (some (c :: name)) {}, rest)
      else none
  | _, _ => none

/-- A change of flags.  Each may be given once, and a hyphen stands before those that
are cleared. -/
def change? (flags : List Char) : Option FlagChange :=
  let areFlags := flags.all (['i', 'm', 's', 'U', 'u', 'R', 'x', '-'].contains ·)
  if areFlags && decide flags.Nodup && flags.getLast? ≠ some '-' then
    some ⟨flags.takeWhile (· ≠ '-'), flags.dropWhile (· ≠ '-')⟩
  else none

/-- Read the start of a group after its bracket. -/
def opening? : List Char → Option (Opening × List Char)
  | '?' :: 'P' :: '<' :: rest => name? rest
  | '?' :: '<' :: rest => name? rest
  | '?' :: rest =>
      let isEnd (c : Char) : Bool := c = ':' || c = ')'
      let flags := rest.takeWhile (!isEnd ·)
      match rest.dropWhile (!isEnd ·) with
      | ':' :: rest => (change? flags).map fun change => (.group none change, rest)
      | _ :: rest =>
          if flags.isEmpty then none
          else (change? flags).map fun change => (.flags change, rest)
      | [] => none
  | rest => some (.group none {}, rest)

/-! ## §2. Patterns. -/

/-- What is read of a group, or of a whole pattern. -/
structure Body where
  mode : Mode := {}
  /-- The names that groups have. -/
  names : List (List Char) := []
  /-- The branches before this one, the last one first. -/
  branches : List Pattern := []
  /-- The items of this branch, the last one first. -/
  items : List Pattern := []

namespace Body

/-- Add an item. -/
def add (b : Body) (item : Pattern) : Body := { b with items := item :: b.items }

/-- Change the flags for what follows. -/
def setFlags (b : Body) (change : FlagChange) : Body :=
  { b with mode := b.mode.change change, items := .flags change :: b.items }

/-- Begin another branch. -/
def nextBranch (b : Body) : Body :=
  { b with branches := .ofItems b.items.reverse :: b.branches, items := [] }

/-- Repeat the last item; flags cannot be repeated. -/
def repeatLast? (b : Body) : Option Body :=
  match b.items with
  | [] => none
  | .flags _ :: _ => none
  | item :: items => some { b with items := .repetition item :: items }

/-- The pattern that was read. -/
def pattern (b : Body) : Pattern :=
  let last := Pattern.ofItems b.items.reverse
  match b.branches with
  | [] => last
  | branches => .choice (last :: branches).reverse

/-- The start of a group inside, unless its name is in use. -/
def enter? (b : Body) (name : Option (List Char)) (change : FlagChange) : Option Body :=
  if name.any b.names.contains then none
  else some { mode := b.mode.change change, names := name.toList ++ b.names }

end Body

/-- Read an item that is neither a group nor a repetition. -/
def item? (m : Mode) (c : Char) (rest : List Char) : Option (Pattern × List Char) :=
  if c = '[' then bracket? m rest
  else if c = '\\' then (escape? m rest).map fun (a, rest) => (.atom a, rest)
  else if c = '\x7b' then none
  else if c = '.' then some (.atom .any, rest)
  else if c = '^' ∨ c = '$' then some (.atom .edge, rest)
  else some (.atom (.literal ⟨c, false⟩), rest)

/-- Skip the mark of a repetition that takes as little as it can. -/
def skipLazy : List Char → List Char
  | '?' :: rest => rest
  | cs => cs

/-- Read up to the bracket that closes the group or up to the end; `fuel` bounds the
number of parts. -/
def read (b : Body) : (fuel : Nat) → List Char → Option (Body × List Char)
  | 0, _ => none
  | fuel + 1, cs =>
      match skip b.mode cs with
      | [] => some (b, [])
      | c :: rest =>
          if c = ')' then some (b, c :: rest)
          else if c = '|' then read b.nextBranch fuel rest
          else if c = '?' ∨ c = '*' ∨ c = '+' then
            match b.repeatLast? with
            | some b => read b fuel (skipLazy rest)
            | none => none
          else if c = '(' then
            match opening? (skip b.mode rest) with
            | none => none
            | some (.flags change, rest) => read (b.setFlags change) fuel rest
            | some (.group name change, rest) =>
                match b.enter? name change with
                | none => none
                | some inner =>
                    match read inner fuel rest with
                    | some (inner, _ :: rest) =>
                        read { b.add (.group change inner.pattern) with names := inner.names }
                          fuel rest
                    | _ => none
          else
            match item? b.mode c rest with
            | some (item, rest) => read (b.add item) fuel rest
            | none => none

/-- The pattern of a text. -/
def parse? (cs : List Char) : Option Pattern :=
  match read {} (cs.length + 1) cs with
  | some (b, []) => some b.pattern
  | _ => none

/-- Is the text a pattern? -/
def isPattern (cs : List Char) : Bool :=
  match parse? cs with
  | some p => p.nesting ≤ nestingLimit && (p.after? {}).isSome
  | none => false

end ConnectionRelay.Logging.Pattern
