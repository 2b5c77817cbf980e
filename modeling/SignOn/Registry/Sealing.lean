import SignOn.Bytes.Hex
import SignOn.Cipher.Basic
import SignOn.Digest.Sha512
import SignOn.Text.Blank
import SignOn.Wire.Ticket

/-!
# Sealing tickets at rest

With an enabled cipher, a ticket is stored as a sealed ticket: its stored format, encrypted, under
the digest of its identifier, so that a look-up by identifier still finds it. Without one, tickets
are stored as they are, under their own identifiers.

## Main definitions

* `Sealing` - the cipher, if there is one
* `Sealing.key` - the storage key of an identifier
* `Sealing.encode` - what is stored for a ticket
* `Sealing.decode`, `Sealing.decodeAll` - the tickets that were stored
-/

namespace SignOn

/-- How tickets are kept at rest. -/
structure Sealing where
  cipher : Option Cipher

namespace Sealing

/-- Tickets are stored as they are. -/
def none : Sealing := ⟨Option.none⟩

/-- Tickets are stored with a cipher, if that is enabled. -/
def withCipher (c : Cipher) : Sealing := ⟨some c⟩

/-- The cipher, if it is enabled. -/
def active? (s : Sealing) : Option Cipher := s.cipher.filter Cipher.enabled

/-- Whether tickets are encrypted at rest. -/
def isActive (s : Sealing) : Bool := s.active?.isSome

/-- How many random bytes encoding a ticket takes. -/
def nonceLength (s : Sealing) (t : Ticket) : Nat :=
  if t.isSealed then 0 else (s.active?.map Cipher.nonceLength).getD 0

/-- The storage key of an identifier: with an active cipher the digest of an identifier that is not
blank, otherwise the identifier. -/
def key (s : Sealing) (id : String) : String :=
  if s.isActive && !Text.isBlank id then Sha512.hexDigest (Utf8.encode id) else id

theorem key_of_isBlank (s : Sealing) {id : String} (h : Text.isBlank id = true) :
    s.key id = id := by
  simp [key, h]

theorem key_of_inactive {s : Sealing} (h : s.isActive = false) (id : String) : s.key id = id := by
  simp [key, h]

/-- What is stored for a ticket. A ticket that is sealed already is stored as it is. -/
def encode (s : Sealing) (nonce : List UInt8) (t : Ticket) : Except RegistryError Ticket :=
  match s.active? with
  | Option.none => .ok t
  | some c =>
    if t.isSealed then .ok t
    else
      match Layout.ticket.serialize t with
      | .error fault => .error (.ofFault fault)
      | .ok bytes =>
        match c.encrypt nonce bytes with
        | .error e => .error e
        | .ok payload => .ok (.sealed ⟨s.key t.id, payload⟩)

/-- What is sealed is not sealed again. -/
theorem encode_of_isSealed (s : Sealing) (nonce : List UInt8) {t : Ticket} (h : t.isSealed = true) :
    s.encode nonce t = .ok t := by
  unfold encode
  cases s.active? <;> simp [h]

/-- The ticket in a sealed one. -/
def opened (c : Cipher) (t : SealedTicket) : Except RegistryError Ticket :=
  match c.decrypt t.payload with
  | .error e => .error e
  | .ok bytes =>
    match Layout.ticket.deserialize bytes with
    | .error fault => .error (.ofFault fault)
    | .ok (.sealed _) =>
      -- Encoding never seals twice, so a sealed ticket in a sealed one is forged or damaged.
      .error (.serialization ("Encoded ticket [" ++ t.id ++ "] decoded to another encoded ticket"))
    | .ok ticket => .ok ticket

/-- The ticket that was stored. A ticket that was not sealed is what it is. -/
def decode (s : Sealing) (t : Ticket) : Except RegistryError Ticket :=
  match s.active?, t with
  | some c, .sealed sealed => opened c sealed
  | _, t => .ok t

/-- The tickets that were stored, decoded one by one up to the first failure. -/
def decodeEach (s : Sealing) : List Ticket → Except RegistryError (List Ticket)
  | [] => .ok []
  | t :: rest =>
    match s.decode t with
    | .error e => .error e
    | .ok first => (s.decodeEach rest).map (first :: ·)

/-- The tickets that were stored, or the first failure. Without an active cipher none of them is
looked at. -/
def decodeAll (s : Sealing) (list : List Ticket) : Except RegistryError (List Ticket) :=
  if s.isActive then s.decodeEach list else .ok list

/-- The text that a sealing is shown as. -/
def diagnosis (s : Sealing) : String :=
  Text.record "TicketCodec"
    [("cipher", Text.present (s.cipher.map fun c => Text.quote c.name)),
      ("enabled", if s.isActive then "true" else "false")]

end Sealing

end SignOn
