/-
# ListOps.Catalogue.Tests -- tests of the scalar operations

`DropLast` is tested on five sample literals, on the first two, on the first
one, on none and on no list at all; the expected list is the given one without
its last literal.  Which literals there are depends on the scalar.
-/
import ListOps.Catalogue.Operation
import ListOps.Scalar

namespace ListOps.Catalogue.Tests

set_option autoImplicit false

def suffix : String := Placeholder.testSuffix.token

def element : String := Placeholder.elementType.token

/-- A list literal. -/
def literals (samples : List String) : String :=
  "[]" ++ element ++ "\x7b" ++ ", ".intercalate samples ++ "\x7d"

/-- One check; the first one also declares its variables. -/
def check (assign given expected : String) : Code :=
  .line s!"list {assign} {given}" ++
  .line s!"expectedList {assign} {expected}" ++
  .line s!"actualList {assign} DropLast{suffix}(list)" ++
  .block "if !reflect.DeepEqual(expectedList, actualList)" [
    .line (s!"t.Errorf(\"TestDropLast{suffix} failed. actual_list=%v, expected_list=%v\", " ++
      "actualList, expectedList)")]

/-- A check for a list literal. -/
def checkSamples (assign : String) (samples : List String) : Code :=
  check assign (literals samples) (literals samples.dropLast)

/-- The whole test, set off from what stands before it by a blank line. -/
def dropLast (samples : List String) : Code :=
  .blank ++ .block s!"func TestDropLast{suffix}(t *testing.T)" [
    checkSamples ":=" samples,
    .blank,
    checkSamples "=" (samples.take 2),
    .blank,
    checkSamples "=" (samples.take 1),
    .blank,
    checkSamples "=" [],
    .blank,
    check "=" "nil" (literals [])]

def numberSamples : List String := ["1", "2", "3", "4", "5"]

def boolSamples : List String := ["true", "true", "true", "true", "false"]

def stringSamples : List String := ["\"1\"", "\"2\"", "\"3\"", "\"4\"", "\"5\""]

end ListOps.Catalogue.Tests
