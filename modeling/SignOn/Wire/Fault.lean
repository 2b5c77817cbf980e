import SignOn.Calendar.Reader
import SignOn.Text.Utf8

/-!
# Faults of the stored format

Why bytes do not start with a value in the stored format, and why a value has no stored form.

## Main definitions

* `Wire.Fault` - the causes
* `Wire.Fault.message` - their wording
* `Wire.Fault.isCut` - whether the bytes end too early
-/

namespace SignOn.Wire

/-- Why bytes do not start with a value in the stored format. -/
inductive Fault where
  /-- The bytes end inside a number, a tag or a single byte. -/
  | cut
  /-- The bytes end inside a text whose length was read. -/
  | cutText
  /-- The bytes of a text are not UTF-8. -/
  | text (fault : Utf8.Fault)
  /-- A truth value is neither zero nor one. -/
  | flag (byte : UInt8)
  /-- The mark of an optional value is neither zero nor one. -/
  | optional (byte : UInt8)
  /-- The number of an alternative is not below the number of alternatives. -/
  | variant (index count : Nat)
  /-- A text is no instant. -/
  | instant (fault : Instant.Fault)
  /-- A length does not fit into sixty-four bits, so that the value has no stored form. -/
  | tooLong
  deriving DecidableEq, Repr

namespace Fault

/-- The wording of a fault. -/
def message : Fault → String
  | cut => "io error: unexpected end of file"
  | cutText => "io error: "
  | text fault => "string is not valid utf8: " ++ fault.message
  | flag byte => s!"invalid u8 while decoding bool, expected 0 or 1, found {byte}"
  | optional byte => s!"tag for enum is not valid, found {byte}"
  | variant index count =>
    s!"invalid value: integer `{index}`, expected variant index 0 <= i < {count}"
  | instant fault => fault.message
  | tooLong => "the size limit has been reached"

/-- Whether the bytes end too early. -/
def isCut : Fault → Bool
  | cut | cutText => true
  | _ => false

end Fault

end SignOn.Wire
