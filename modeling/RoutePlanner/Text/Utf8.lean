/-!
# Reading UTF-8 with replacement

Bytes read as UTF-8 where each ill-formed part becomes U+FFFD: a byte that cannot start a
character is replaced on its own, and a sequence that starts well but breaks off is replaced as
a whole up to the byte that breaks it (the longest well-formed beginning counts as one part).

A lead byte fixes the length and the range of its second byte: `C2`–`DF` take one more byte,
`E0` a second byte from `A0`, `ED` one below `A0`, other `E1`–`EF` any continuation and then
one more; `F0` a second byte from `90`, `F4` one below `90`, `F1`–`F3` any, then two more.
-/

namespace RoutePlanner.Text

/-- The replacement character. -/
def replacement : Char := Char.ofNat 0xFFFD

/-- Whether a byte continues a character. -/
def isContinuation (b : UInt8) : Bool := 0x80 ≤ b && b ≤ 0xBF

/-- For a lead byte: the number of bytes that follow it and the range of the first of them. -/
def leadShape (b : UInt8) : Option (Nat × UInt8 × UInt8) :=
  if 0xC2 ≤ b && b ≤ 0xDF then some (1, 0x80, 0xBF)
  else if b = 0xE0 then some (2, 0xA0, 0xBF)
  else if b = 0xED then some (2, 0x80, 0x9F)
  else if 0xE1 ≤ b && b ≤ 0xEF then some (2, 0x80, 0xBF)
  else if b = 0xF0 then some (3, 0x90, 0xBF)
  else if b = 0xF4 then some (3, 0x80, 0x8F)
  else if 0xF1 ≤ b && b ≤ 0xF3 then some (3, 0x80, 0xBF)
  else none

/-- How many of `need` following bytes are well formed, the first within `lo … hi`. -/
def wellFormedRun (need : Nat) (lo hi : UInt8) (bs : List UInt8) : Nat :=
  match bs with
  | b :: rest =>
    if need = 0 then 0
    else if lo ≤ b && b ≤ hi then 1 + wellFormedRun (need - 1) 0x80 0xBF rest
    else 0
  | [] => 0

/-- The value of a lead byte and its continuation bytes. -/
def codePoint (lead : UInt8) (follow : List UInt8) : Nat :=
  let first := match follow.length with
    | 1 => lead.toNat % 0x20
    | 2 => lead.toNat % 0x10
    | _ => lead.toNat % 0x08
  follow.foldl (fun acc b => acc * 64 + b.toNat % 64) first

/-- What is left after dropping from the tail of a list is shorter than the list. -/
theorem length_drop_lt_cons {α : Type} (b : α) (rest : List α) (n : Nat) :
    (rest.drop n).length < (b :: rest).length := by
  rw [List.length_drop]
  exact Nat.lt_succ_of_le (Nat.sub_le _ _)

/-- **Bytes read as UTF-8**, ill-formed parts replaced. -/
def decodeLossy (bs : List UInt8) : List Char :=
  match bs with
  | [] => []
  | b :: rest =>
    if b < 0x80 then Char.ofNat b.toNat :: decodeLossy rest
    else
      match leadShape b with
      | none => replacement :: decodeLossy rest
      | some (need, lo, hi) =>
        let run := wellFormedRun need lo hi rest
        if run = need then Char.ofNat (codePoint b (rest.take need)) :: decodeLossy (rest.drop need)
        else replacement :: decodeLossy (rest.drop run)
termination_by bs.length
decreasing_by
  · exact Nat.lt_succ_self _
  · exact Nat.lt_succ_self _
  · exact length_drop_lt_cons b rest need
  · exact length_drop_lt_cons b rest _

end RoutePlanner.Text
