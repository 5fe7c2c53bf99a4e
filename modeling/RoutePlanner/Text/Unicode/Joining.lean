import RoutePlanner.Text.Unicode.RangeTable

/-!
# Joining types

In cursive scripts a letter joins the letters beside it on its left, its right, or both;
marks are transparent to joining. A zero width non-joiner makes sense only between two letters
that would otherwise join. The table (from the Unicode Character Database) covers the
characters that may stand in a domain name, with tags `L` (joins on the left), `R` (on the
right), `D` (both), `T` (transparent) and `U` (neither, join-causing characters included).
-/

namespace RoutePlanner.Unicode

/-- How a character joins its neighbours. -/
inductive JoiningType where
  | left
  | right
  | dual
  | transparent
  | nonJoining
  deriving DecidableEq, Repr

/-- The joining types, as the text of a range table. -/
def joiningTypeText : String := String.join [
  "U300T71U112T8U106T2dU1T1U1T2U1T2U1T9U40TbU5D1U1R4D1R1D1R1D5R4DdU1D7R1D2T15UeD2T1R3U5DfR12D26",
  "R1D2R9D1R1D1R1D2R2U1R1T8U1T6U2T2U1T4R2UaD3U2D1U10R1T1D3R5D4R1D9R1D1R1D1R1D2R1T1dR1DbR3DfR2D4",
  "R1D1R2D3R2D6U26TbU19D21T9U9T1U18T4U1T9U1T3U1T7U10R1D5R2D1R1DaR1D1R3T5U2D1U1D4U1R1D1R1aU3D1U2",
  "D5R1D8T9DaR3U1R1D2R2D6R1DfU1T39U37T1U1T1U4T8U4T1U3TfU2T2U1dT1U3aT1U4T6U6T1U14T4U18T5U39T2U3T",
  "1bU14T2U3T1UbT2U39T1U4T8U4T3U12T4U14T8U3aT1U2T1U1T6U6TaUbT4U1cT1U3dT1UcT3U30T1U3T1U37T1U1T3U",
  "5T12UaT4U1bT1U3aT1U2T1U6T1U5T9UdT4U1aT2U39T2U4T5U7T1U14T4U1bT1U48T5U3T6U59T1U2TbU8T8U62T1U2T",
  "9UbT8U48T2U1bT1U1T1U1T1U37TeU1T5U1T2U5T31U8T1U66T4U1T6U1T2U2T2U19T2U4T3U10T4UdT1U2T2U6T1UfT1",
  "U2bfT3U3b2T3U1dT2U1eTeU12TeU37T7U8T1U2TbU9T3U27D1U18D60U5T2D22T1D6U70T3U4T2U9T1U6T7Ud7T2U2T3",
  "U38T1U1T9U1T1U2T8U6TdU30T54U30T1U1T5U1T1U5T1U28T9UcT2U20T4U2T2U1T3U38T1U1T2U3T1U1T3U3aT8U2T5",
  "U95T3U1TdU1T7U4T1U6T1U3T2Uc6T41U2cfT34UbebT4U8cT1U60T20U22aT4U6bT4U75d2T4U1TaU20T2U50T2U110T",
  "1U3T1U4T1U19T2U5T4U10D32L1U51TaU12T12UdT1U26T8U19TbU2eT3U30T1U2T4U2T2U27T1U43T6U2T2U2TbU3T1U",
  "8T1U2fT1U33T1U1T3U2T2U5T2U1T1U2aT2U8TbUe4T1U2T1U4T3U4f2eT94U26eT25U3b8T83U60T1U95TaU681TfU28",
  "T8U80D5R1U1R1U1R2U2L1R5D4L1D5R1D3R1U2R1T6D4R1U90D1R1D1R3D3R1D2R1D1R2D1R8U10R4D2U151L1D21R1D1",
  "TcU39T5U13dT2U15R1D2U1DaU2aT6U30D3R1D11U1TbD3R1U1bD4R2DcT4U2aD1U1D2R3U1D1R2D2R1D2U1D1R2D1U4R",
  "1D1L15U21T1U36TfU29T1U2T2UaT3U31T4U2T2U7TeU30T3U24T5U1T9U3dT1UcT2U34T9UaT4U2T1U5fT3U2T1U1T2U",
  "6T1U2T3fU5fT1U3TdU10T2U39T2U3T1U25T1aU3bT7UcT1U1T1U1T1UeT1fU38T8U2T3U1T1U17T1U54T6U1T1U4T2U1",
  "T2UeeT6U4T2U1T2U1bT24U33T8U2T1U1T2U6aT1U1T1U2T6U1T1U65T1U1T1U2T4U1T9UffT9U1T2U100T2U1T1U4T1U",
  "90T8U4T1U20TaU28T6U2T4U8T9U1T6U2T3U2eTdU1T2Uc6T1U1T3U1T1Uc9TeU1T1U52T17U1T7U1T2U1T4bU31T15U1",
  "T9U40T3U2T1U1T1U15bT2UbT2U34T8U2T1U1T1U17T56U1490T1U6T19U2cbeTcU3T3U9c0T5U3bT7U418T1U3fT4U51",
  "TcU4cadT2U1261T50U217T3U11T8U2T7U1eT4U94T3U7bbT37U4T32U8T1UeT1U16T465U100T100U30T7U177T12U2c",
  "T4U1fcT4UfeT2Uf3T1U2T1U7T2U5T9U1d2T52D22TcU"]

/-- The joining types, as a range table. -/
def joiningTypes : RangeTable := RangeTable.decode joiningTypeText

/-- **The joining type of a character.** -/
def joiningType (c : Char) : JoiningType :=
  match joiningTypes.tagAt c.toNat 'U' with
  | 'L' => .left
  | 'R' => .right
  | 'D' => .dual
  | 'T' => .transparent
  | _ => .nonJoining

end RoutePlanner.Unicode
