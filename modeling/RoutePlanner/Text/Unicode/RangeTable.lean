/-!
# Tables of code-point ranges

Character properties are kept as tables of ranges: the code points from one entry's start up
to the next entry's start share the entry's tag and values. A table is written compactly as
text and read once:

* an entry is the distance of its start from the previous entry's start, in lower-case
  hexadecimal, followed by its tag, one upper-case letter;
* values, when the entry has any, follow the tag as `:`, hexadecimal numbers separated by `,`,
  and `;` (`:;` gives an empty list);
* any other character is skipped.

`RangeTable.find?` finds the entry whose range holds a code point by halving the table, and
`RangeTable.entryAt?` the entry that starts at it.
-/

namespace RoutePlanner.Unicode

/-- An entry of a range table: where its range starts, the tag that classifies the range, and
the numbers that go with the tag. -/
structure RangeEntry where
  start : Nat
  tag : Char
  values : List Nat
  deriving Repr, Inhabited, DecidableEq

/-- A table of ranges, sorted by start; each range runs up to the next one's start. -/
abbrev RangeTable := Array RangeEntry

/-- The value of a lower-case hexadecimal digit. -/
def hexValue? (c : Char) : Option Nat :=
  if '0' ≤ c ∧ c ≤ '9' then some (c.toNat - '0'.toNat)
  else if 'a' ≤ c ∧ c ≤ 'f' then some (c.toNat - 'a'.toNat + 10)
  else none

/-- Where the reading of a table's text stands. -/
structure TableReader where
  entries : Array RangeEntry
  start : Nat
  number : Nat
  digits : Bool
  values : List Nat
  inValues : Bool

/-- **One character of a table's text read.** Digits build a number; a tag ends a distance and
adds an entry; `:`, `,` and `;` give the last entry its values. -/
def TableReader.step (r : TableReader) (c : Char) : TableReader :=
  match hexValue? c with
  | some d => { r with number := r.number * 16 + d, digits := true }
  | none =>
    if r.inValues then
      let vs := if r.digits then r.number :: r.values else r.values
      if c = ',' then { r with values := vs, number := 0, digits := false }
      else if c = ';' then
        { r with
          entries := r.entries.modify (r.entries.size - 1) (fun e => { e with values := vs.reverse })
          values := []
          number := 0
          digits := false
          inValues := false }
      else r
    else if c = ':' then { r with inValues := true, values := [], number := 0, digits := false }
    else if c.isUpper then
      let start := r.start + r.number
      { r with
        entries := r.entries.push ⟨start, c, []⟩
        start := start
        number := 0
        digits := false }
    else r

/-- **A table read from its text.** -/
def RangeTable.decode (text : String) : RangeTable :=
  (text.foldl TableReader.step ⟨#[], 0, 0, false, [], false⟩).entries

/-- The start of the entry at a position, or 0 past the end. -/
def RangeTable.startAt (t : RangeTable) (i : Nat) : Nat := ((t[i]?).map (·.start)).getD 0

/-- The position of the last entry that starts at or before `cp`, between `lo` (included) and
`hi` (excluded), halving the interval at most `fuel` times. -/
def RangeTable.floorIndex (t : RangeTable) (cp : Nat) : Nat → Nat → Nat → Nat
  | 0, lo, _ => lo
  | fuel + 1, lo, hi =>
    if lo + 1 < hi then
      let mid := (lo + hi) / 2
      if t.startAt mid ≤ cp then t.floorIndex cp fuel mid hi else t.floorIndex cp fuel lo mid
    else lo

/-- **The entry whose range holds a code point**, or `none` before the first entry. Halving a
table of fewer than 2⁶⁴ entries 64 times always comes down to one entry. -/
def RangeTable.find? (t : RangeTable) (cp : Nat) : Option RangeEntry :=
  match t[t.floorIndex cp 64 0 t.size]? with
  | some e => if e.start ≤ cp then some e else none
  | none => none

/-- The entry that starts exactly at `key`. -/
def RangeTable.entryAt? (t : RangeTable) (key : Nat) : Option RangeEntry :=
  (t.find? key).filter (·.start = key)

/-- The tag of the range that holds a code point, `default` before the first entry. -/
def RangeTable.tagAt (t : RangeTable) (cp : Nat) (default : Char) : Char :=
  ((t.find? cp).map (·.tag)).getD default

end RoutePlanner.Unicode
