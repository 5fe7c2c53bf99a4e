import RoutePlanner.Text.Unicode.RangeTable

/-!
# Canonical combining classes

The canonical combining class of a character orders the marks that follow a base character
in normalization, and class 9 marks a virama. The table (from the Unicode Character
Database) covers the characters that may stand in a domain name; it has tag `C` with the class
as its one value, and `Z` for class 0.
-/

namespace RoutePlanner.Unicode

/-- The canonical combining classes, as the text of a range table. -/
def combiningClassText : String := String.join [
  "Z300C:e6;15C:e8;1C:dc;4C:e8;1C:d8;1C:dc;5C:ca;2C:dc;4C:ca;2C:dc;bC:1;5C:dc;4C:e6;aC:dc;3C:e6",
  ";3C:dc;3C:e6;3C:dc;4C:e6;1C:e8;1C:dc;2C:e6;1C:e9;1C:ea;2C:e9;1C:ea;2C:e9;1C:e6;eZ112C:e6;5Z1",
  "09C:dc;1C:e6;4C:dc;1C:e6;3C:de;1C:dc;1C:e6;6C:dc;6C:e6;2C:dc;1C:e6;2C:de;1C:e4;1C:e6;1C:a;1C",
  ":b;1C:c;1C:d;1C:e;1C:f;1C:10;1C:11;1C:12;1C:13;2C:14;1C:15;1C:16;1Z1C:17;1Z1C:18;1C:19;1Z1C:",
  "e6;1C:dc;1Z1C:12;9Z40C:e6;8C:1e;1C:1f;1C:20;1Z30C:1b;1C:1c;1C:1d;1C:1e;1C:1f;1C:20;1C:21;1C:",
  "22;1C:e6;2C:dc;2C:e6;5C:dc;1C:e6;2C:dc;1Z10C:23;1Z65C:e6;8Z1C:e6;4C:dc;1C:e6;1Z2C:e6;2Z1C:dc",
  ";1C:e6;2C:dc;1Z23C:24;1Z1eC:e6;1C:dc;1C:e6;2C:dc;1C:e6;2C:dc;3C:e6;1C:dc;2C:e6;1C:dc;1C:e6;3",
  "C:dc;1C:e6;1C:dc;1C:e6;1C:dc;1C:e6;1C:dc;1C:e6;4Z9eC:e6;7C:dc;1C:e6;1Z9C:dc;1Z18C:e6;4Z1C:e6",
  ";9Z1C:e6;3Z1C:e6;7Z29C:dc;5Z3aC:e6;1C:dc;3C:e6;4Z2aC:e6;5C:dc;5C:e6;fC:dc;1C:e6;2C:dc;1C:e6;",
  "2C:dc;1C:e6;3C:dc;3C:1b;1C:1c;1C:1d;1C:e6;3C:dc;1C:e6;2C:dc;2C:e6;5Z3cC:7;1Z10C:9;1Z3C:e6;1C",
  ":dc;1C:e6;2Z67C:7;1Z10C:9;1Z30C:e6;3Z3bC:7;2ZfC:9;4Z6bC:7;1Z10C:9;3Z6cC:7;1Z10C:9;8Z78C:9;3Z",
  "6cC:7;1Z10C:9;8C:54;1C:5b;2Z64C:7;1Z10C:9;8Z66C:9;2Z10C:9;1Z7cC:9;5Z69C:67;2C:9;5Z9C:6b;4Z6c",
  "C:76;2C:9;1ZdC:7a;4Z4cC:dc;2Z1bC:dc;1Z1C:dc;1Z1C:d8;1Z37C:81;1C:82;2C:84;6C:82;4Z2C:82;2C:e6",
  ";2C:9;1Z1C:e6;2Z3eC:dc;1Z70C:7;1Z1C:9;2Z52C:dc;1Z2cfC:e6;3Z3b4C:9;bZ15C:9;1Z9dC:9;1ZaC:e6;3Z",
  "c9C:e4;1Z8fC:de;1C:e6;1C:dc;5Zd7C:e6;1C:dc;1Z47C:9;1Z14C:e6;aC:dc;1Z30C:e6;5C:dc;6C:e6;2C:dc",
  ";1Z1C:dc;2C:e6;2C:dc;2C:e6;5C:dc;1C:e6;4Z65C:7;1ZfC:9;1Z26C:e6;1C:dc;1C:e6;7Z36C:9;2Z3aC:7;1",
  "ZbC:9;aZ3bC:7;4Z95C:e6;3Z1C:1;1C:dc;5C:e6;2C:dc;4C:e6;1Z1C:1;7Z4C:dc;1Z6C:e6;1Z3C:e6;2Zc6C:e",
  "6;2C:dc;1C:e6;7C:dc;1C:e6;2C:ea;1C:d6;1C:dc;1C:ca;1C:e6;25C:e8;1C:e4;2C:dc;1C:da;1C:e6;1C:e9",
  ";1C:dc;1C:e6;1C:dc;2Z2cfC:e6;2C:1;2C:e6;4C:1;3C:e6;2Z4C:e6;1Z3C:1;2C:e6;1C:dc;1C:e6;1C:1;2C:",
  "dc;4C:e6;14ZbebC:e6;4Z8cC:9;1Z60C:e6;20Z22aC:da;1C:e4;1C:e8;1C:de;1C:e0;2Z69C:8;4Z75d2C:e6;1",
  "Z4C:e6;aZ20C:e6;2Z50C:e6;2Z114C:9;1Z25C:9;4Z94C:9;1Z1bC:e6;12Z39C:dc;3Z25C:9;cZ54C:7;1ZcC:9;",
  "1ZefC:e6;1Z1C:e6;2C:dc;1Z2C:e6;2Z5C:e6;2Z1C:e6;1Z34C:9;bZecC:9;3Z4f2eC:1a;94Z26eC:e6;7C:dc;7",
  "C:e6;17Z3b8C:dc;83Z60C:dc;1Z95C:e6;aZ68dC:dc;1Z1C:e6;1Z28C:e6;1C:1;1C:dc;5C:9;1Za5C:e6;1C:dc",
  ";5Z239C:e6;cZ17bC:e6;2Z99C:dc;2C:e6;3C:dc;1C:e6;1C:dc;4Z31C:e6;1C:dc;1C:e6;1C:dc;1Zc0C:9;1Z2",
  "9C:9;1ZeC:9;1Z39C:9;1C:7;1Z45C:e6;3Z30C:9;3Z3dC:7;1Z4cC:9;1Z9C:7;1Z6aC:9;1C:7;1Zb2C:7;1C:9;6",
  "Z4bC:7;2Z10C:9;3Z16C:e6;1aZc2C:9;1Z3C:7;1Z17C:e6;1Z63C:9;1C:7;1ZfbC:9;1C:7;1Z7eC:9;1Z76C:9;1",
  "C:7;1Z73C:9;5Z109C:9;1C:7;1Z102C:9;2Z4C:7;1Z9cC:9;1Z53C:9;1Z12C:9;9Z49C:9;1Z1a5C:9;1Z102C:7;",
  "1Z1C:9;2Z51C:9;1Z4d58C:1;5Z3bC:e6;7Z4b9C:6;2Z4cacC:1;1Z14c6C:d8;2C:1;3Z3C:e2;1C:d8;dC:dc;8Z2",
  "C:e6;5C:dc;2Z1eC:e6;4Z94C:e6;3ZdbbC:e6;8fZa1C:e6;7Z177C:e6;12Z2cC:e6;4Z5e0C:dc;52Z22C:e6;6C:",
  "7;1Z"]

/-- The canonical combining classes, as a range table. -/
def combiningClasses : RangeTable := RangeTable.decode combiningClassText

/-- **The canonical combining class of a character**: 0 for a starter. -/
def combiningClass (c : Char) : Nat :=
  match combiningClasses.find? c.toNat with
  | some e => if e.tag = 'C' then e.values.headD 0 else 0
  | none => 0

/-- Whether a character is a virama, the mark that lets a joiner follow it. -/
def isVirama (c : Char) : Bool := combiningClass c = 9

end RoutePlanner.Unicode
