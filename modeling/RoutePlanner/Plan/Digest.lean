import RoutePlanner.Plan.Request
import RoutePlanner.Number.Fixed
import RoutePlanner.Json.Print
import RoutePlanner.Hash.Fnv

/-!
# Request digests

A digest spots repeated tour requests in the route history. It is FNV-1a over the canonical
JSON of the request in a normal form:

* each stop is `{id, label, lat, lng}`, with `label` `null` when absent and the degrees rounded
  to six places (`roundTo`);
* the options keep only the fields given: the strategy, the budgets rounded to whole numbers
  half away from zero, and the tolerance rounded to three places;
* a number is written as an integer when it is whole and below `2 ^ 63` in size (so `35` and
  `35.0` agree, and `-0` is `0`), as a double otherwise, and as `null` when not finite.

So two requests that differ only below six places in a degree or three in the tolerance have
the same digest, and the order of the destinations matters.
-/

namespace RoutePlanner

open RoutePlanner.Number RoutePlanner.Json

/-- **A number in normal form**: an integer when whole and below `2 ^ 63` in size, `null`
when not finite, otherwise the double. -/
def digestNumber (x : Float) : Value :=
  match classify x with
  | .finite neg b =>
    if b.isIntegral ∧ b.truncate < Nat.pow 2 63 then
      Value.ofInt (if neg then -(b.truncate : Int) else b.truncate)
    else .ofFloat x
  | _ => .null

/-- A stop in normal form. -/
def Stop.normalForm (s : Stop) : Value :=
  .object [("id", .string s.id), ("label", Value.ofOption .string s.label),
    ("lat", digestNumber (roundTo s.lat 6)), ("lng", digestNumber (roundTo s.lng 6))]

/-- Options in normal form: only the fields given. -/
def SubmittedOptions.normalForm (o : SubmittedOptions) : Value :=
  objectOf [("strategy", o.strategy.map Strategy.toJson),
    ("maxIterations", o.maxIterations.map (digestNumber ∘ roundHalfAway)),
    ("maxRuntimeSeconds", o.maxRuntimeSeconds.map (digestNumber ∘ roundHalfAway)),
    ("fallbackTolerance", o.fallbackTolerance.map fun t => digestNumber (roundTo t 3))]

/-- A request in normal form. -/
def TourRequest.normalForm (r : TourRequest) : Value :=
  .object [("origin", r.origin.normalForm),
    ("destinations", .array (r.destinations.map Stop.normalForm)),
    ("options", (r.options.map SubmittedOptions.normalForm).getD (.object []))]

/-- **The digest of a request**: 16 hexadecimal digits. -/
def TourRequest.digest (r : TourRequest) : String :=
  Hash.fnv1aHex r.normalForm.canonical

end RoutePlanner
