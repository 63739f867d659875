import HatchSensor.Hatch.Config

/-!
# The stored form of a hatch configuration

A record of 88 bytes: a marker, the identity of the hatch in a field of 40 bytes that is filled up
with zeros, and eleven words.  Only a complete record with the marker is accepted.
-/

namespace HatchSensor

namespace HatchConfig

/-- The word every record starts with. -/
def recordMarker : UInt32 := 0xdeadbeef

/-- Bytes of the identity field. -/
def uuidField : Nat := 40

/-- Bytes of a record. -/
def recordSize : Nat := 88

/-- The words of a record after the identity. -/
def words (c : HatchConfig) : List UInt32 :=
  [c.interval, c.endTime, c.low.bits, c.high.bits, c.offset.bits, c.lowRun, c.highRun,
    c.lowRunLimit, c.highRunLimit, c.unpublished, c.publishAfter]

/-- The identity field: the identity, cut off at its limit, and zeros. -/
def encodeUuid (uuid : String) : Bytes :=
  let text := (Bytes.encodeUtf8 uuid).take uuidLimit
  text ++ List.replicate (uuidField - text.length) 0

/-- The stored form. -/
def encode (c : HatchConfig) : Bytes :=
  Bytes.ofWord recordMarker ++ encodeUuid c.uuid ++ c.words.flatMap Bytes.ofWord

/-- The identity in a field: the text before the first zero, if it is not too long. -/
def decodeUuid (field : Bytes) : Option String :=
  let text := field.takeWhile (· != 0)
  if text.length ≤ uuidLimit then Bytes.decodeUtf8 text else none

/-- The configuration that has a given identity and given words. -/
def ofWords (uuid : String) : List UInt32 → Option HatchConfig
  | [interval, endTime, low, high, offset, lowRun, highRun, lowRunLimit, highRunLimit,
      unpublished, publishAfter] =>
    some { uuid, interval, endTime, low := ⟨low⟩, high := ⟨high⟩, offset := ⟨offset⟩, lowRun,
           highRun, lowRunLimit, highRunLimit, unpublished, publishAfter }
  | _ => none

/-- The configuration whose stored form is given. -/
def decode (bytes : Bytes) : Option HatchConfig :=
  if bytes.length ≠ recordSize then none
  else if Bytes.toWords (bytes.take 4) ≠ [recordMarker] then none
  else
    match decodeUuid ((bytes.drop 4).take uuidField) with
    | none => none
    | some uuid => ofWords uuid (Bytes.toWords (bytes.drop (4 + uuidField)))

end HatchConfig

end HatchSensor
