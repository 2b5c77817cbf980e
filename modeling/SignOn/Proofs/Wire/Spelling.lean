import SignOn.Proofs.Calendar.Spelling
import SignOn.Proofs.Wire.Tickets
import SignOn.Registry.Error

/-!
# Spellings of stored values

The stored format as rules that say which bytes spell which value. A value may have several
spellings: maps may list their entries in any order and repeat keys, and a date may be written in
any relaxed form. Whatever the value, the bytes say where they end. So a reader accepts a spelling
whatever follows it, takes no byte more, and never takes a cut spelling for a value.

## Main definitions

* `Wire.Spelling` - which bytes spell a value
* `Wire.Spelling.list`, `Wire.Spelling.textMap`, `Wire.Spelling.oneOf` - compound values
* `Wire.Spelling.ticket` - tickets of any kind
* `Wire.Reads` - a reader accepts spellings, nothing but spellings, and no cut ones

## Main results

* `Wire.Reads.bind`, `Wire.Reads.map`, `Wire.Reads.oneOf` - readers of compound values
* `Wire.Reads.eq_of_append` - no spelling goes on with another one
* `Wire.reads_ticket` - tickets are read by their spellings
-/

namespace SignOn.Wire

open Layout (littleEndian number readNumber readVariant writeLength readMany)

/-- Which bytes spell a value. -/
abbrev Spelling (α : Type) := α → List UInt8 → Prop

variable {α β : Type}

/-! ### The stored format -/

namespace Spelling

/-- A number that fits into a number of bytes, least significant first. -/
def number (width : Nat) : Spelling Nat := fun n bytes => n < 256 ^ width ∧ bytes = littleEndian width n

/-- A text: its length in bytes, and its bytes. -/
def text : Spelling String := fun s bytes =>
  (Utf8.encode s).length < UInt64.size ∧
    bytes = writeLength (Utf8.encode s).length ++ Utf8.encode s

/-- An instant: a text that spells it, in any relaxed form. -/
def instant : Spelling Instant := fun i bytes => ∃ s, i.Spells s.toList ∧ text s bytes

/-- A single byte. -/
def byte : Spelling UInt8 := fun b bytes => bytes = [b]

/-- A truth value: a byte that is zero or one. -/
def flag : Spelling Bool := fun b bytes => bytes = [if b then 1 else 0]

/-- No bytes at all, for a single value. -/
def nothing (a : α) : Spelling α := fun b bytes => b = a ∧ bytes = []

/-- A value in terms of another one. -/
def map (S : Spelling α) (f : α → β) : Spelling β := fun b bytes => ∃ a, f a = b ∧ S a bytes

/-- A value, and then what depends on it. -/
def bind (S : Spelling α) (T : α → Spelling β) : Spelling β := fun b bytes =>
  ∃ a front back, bytes = front ++ back ∧ S a front ∧ T a b back

/-- One value after the other. -/
def pair (S : Spelling α) (T : Spelling β) : Spelling (α × β) := fun ab bytes =>
  ∃ front back, bytes = front ++ back ∧ S ab.1 front ∧ T ab.2 back

/-- An optional value: a zero byte, or a one byte and the value. -/
inductive option (S : Spelling α) : Option α → List UInt8 → Prop
  | none : option S none [0]
  | some {a : α} {bytes : List UInt8} : S a bytes → option S (some a) (1 :: bytes)

/-- Values one after the other. -/
inductive many (S : Spelling α) : List α → List UInt8 → Prop
  | nil : many S [] []
  | cons {a : α} {as : List α} {front back : List UInt8} : S a front → many S as back →
    many S (a :: as) (front ++ back)

/-- A list: its length, and its values. -/
def list (S : Spelling α) : Spelling (List α) := fun as bytes =>
  as.length < UInt64.size ∧ ∃ back, bytes = writeLength as.length ++ back ∧ many S as back

/-- A map: a list of entries in any order. The last value of a repeated key stays. -/
def textMap (S : Spelling α) : Spelling (TextMap α) := (list (pair text S)).map TextMap.ofList

/-- One of some alternatives: its number in thirty-two bits, and its value. -/
def oneOf (alternatives : List (Spelling α)) : Spelling α := fun a bytes =>
  ∃ n S back, alternatives[n]? = some S ∧ bytes = littleEndian 4 n ++ back ∧ S a back

/-- Bytes that begin with a spelling of a value. -/
def Begins (S : Spelling α) (bytes : List UInt8) (a : α) : Prop :=
  ∃ front rest, bytes = front ++ rest ∧ S a front

/-! ### The parts of a ticket -/

def service : Spelling Service := text.map Service.mk

def attributeValue : Spelling AttributeValue := oneOf [text.map .single, (list text).map .multi]

def attributes : Spelling Attributes := textMap attributeValue

def principal : Spelling Principal :=
  (pair text attributes).map fun (id, attributes) => ⟨id, attributes⟩

def credentialSummary : Spelling CredentialSummary :=
  (pair text text).map fun (id, kind) => ⟨id, kind⟩

def handlerReport : Spelling HandlerReport :=
  (pair text (pair credentialSummary (pair (option principal) (list text)))).map
    fun (handler, credential, principal, warnings) => ⟨handler, credential, principal, warnings⟩

/-- An authentication: principal, credentials, successes, failures, attributes and date. -/
def authentication : Spelling Authentication :=
  (pair principal (pair (list credentialSummary) (pair (textMap handlerReport)
      (pair (textMap text) (pair attributes instant))))).map
    fun (principal, credentials, successes, failures, attributes, date) =>
      ⟨principal, credentials, successes, failures, attributes, date⟩

/-- A number of seconds, in two's complement. -/
def seconds : Spelling Int64 := ((number 8).map UInt64.ofNat).map UInt64.toInt64

def expirationPolicy : Spelling ExpirationPolicy :=
  oneOf [nothing .never, nothing .always, seconds.map .after]

/-- A session: identifier, creation, policy, authentication, and what was issued from it. -/
def session : Spelling Session :=
  (pair text (pair instant (pair expirationPolicy (pair authentication
      (pair (textMap service) (textMap service)))))).map
    fun (id, created, policy, authentication, services, proxies) =>
      ⟨id, created, policy, authentication, services, proxies⟩

/-- A service ticket: identifier, creation, policy, parent, service, and if the login was new. -/
def serviceTicket : Spelling ServiceTicket :=
  (pair text (pair instant (pair expirationPolicy (pair text (pair service flag))))).map
    fun (id, created, policy, parent, service, fromNewLogin) =>
      ⟨id, created, policy, parent, service, fromNewLogin⟩

/-- A proxy-granting ticket: body, parent, and the service that acts as a proxy. -/
def proxyTicket : Spelling ProxyTicket :=
  (pair session (pair text service)).map fun (body, parent, proxiedBy) => ⟨body, parent, proxiedBy⟩

/-- A sealed ticket: identifier and payload. -/
def sealedTicket : Spelling SealedTicket :=
  (pair text (list byte)).map fun (id, payload) => ⟨id, payload⟩

/-- A ticket: the number of its kind, and the ticket. -/
def ticket : Spelling Ticket :=
  oneOf [session.map .session, serviceTicket.map .service, proxyTicket.map .proxy,
    sealedTicket.map .sealed]

end Spelling

/-! ### Readers -/

/-- What reads a value from the front of bytes, and leaves the rest. -/
abbrev Reader (α : Type) := List UInt8 → Except Fault (α × List UInt8)

/-- Reads a value in terms of another one. -/
def Reader.map (read : Reader α) (f : α → β) : Reader β := fun bytes =>
  (read bytes).map fun (a, rest) => (f a, rest)

/-- Reads a value, and then what depends on it. -/
def Reader.bind (first : Reader α) (second : α → Reader β) : Reader β := fun bytes =>
  match first bytes with
  | .error fault => .error fault
  | .ok (a, rest) => second a rest

/-- A reader accepts every spelling, whatever follows; it accepts nothing else; and where a spelling
is cut short it fails, and says so. -/
structure Reads (read : Reader α) (S : Spelling α) : Prop where
  accepts : ∀ {a front}, S a front → ∀ rest, read (front ++ rest) = .ok (a, rest)
  spelled : ∀ {bytes a rest}, read bytes = .ok (a, rest) → ∃ front, bytes = front ++ rest ∧ S a front
  cut : ∀ {a front back}, S a (front ++ back) → back ≠ [] →
    ∃ fault, read front = .error fault ∧ fault.isCut = true

namespace Reads

variable {read first : Reader α} {S S' : Spelling α} {T : Spelling β}

/-- Another way to put the reader and the spellings. -/
theorem congr (h : Reads read S) {read' : Reader α} (hread : ∀ bytes, read' bytes = read bytes)
    (heq : ∀ a bytes, S' a bytes ↔ S a bytes) : Reads read' S' := by
  obtain rfl : read' = read := funext hread
  obtain rfl : S' = S := funext fun a => funext fun bytes => propext (heq a bytes)
  exact h

/-- No spelling goes on with another one, and none spells two values. -/
theorem eq_of_append (h : Reads read S) {a b : α} {front back : List UInt8} (ha : S a front)
    (hb : S b (front ++ back)) : a = b ∧ back = [] := by
  have hread := h.accepts ha back
  have hread' := h.accepts hb []
  rw [List.append_nil, hread] at hread'
  exact Prod.mk.inj (Except.ok.inj hread')

/-- Reading nothing gives the value at once. -/
theorem nothing (a : α) : Reads (fun bytes => .ok (a, bytes)) (Spelling.nothing a) where
  accepts := by
    rintro b front ⟨rfl, rfl⟩ rest
    rfl
  spelled hread := by
    obtain ⟨rfl, rfl⟩ := Prod.mk.inj (Except.ok.inj hread)
    exact ⟨[], rfl, rfl, rfl⟩
  cut := by
    rintro b front back ⟨-, hnil⟩ hback
    exact absurd (List.append_eq_nil_iff.1 hnil).2 hback

theorem map (h : Reads read S) (f : α → β) : Reads (Reader.map read f) (S.map f) where
  accepts := by
    rintro _ front ⟨a, rfl, ha⟩ rest
    simp only [Reader.map, h.accepts ha rest, Except.map]
  spelled hread := by
    obtain ⟨a, ha, rfl⟩ := exists_read_of_map hread
    obtain ⟨front, hbytes, hfront⟩ := h.spelled ha
    exact ⟨front, hbytes, a, rfl, hfront⟩
  cut := by
    rintro _ front back ⟨a, rfl, ha⟩ hback
    obtain ⟨fault, hread, hcut⟩ := h.cut ha hback
    exact ⟨fault, by simp only [Reader.map, hread, Except.map], hcut⟩

/-- A spelling of two parts is cut in the first part, or after it. -/
theorem cases_of_cut {x y front back : List UInt8} (h : front ++ back = x ++ y) :
    (∃ m, x = front ++ m ∧ m ≠ []) ∨ ∃ m, front = x ++ m ∧ y = m ++ back := by
  rcases List.append_eq_append_iff.1 h with ⟨m, rfl, hback⟩ | ⟨m, rfl, hy⟩
  · cases m with
    | nil => exact .inr ⟨[], by simp, by simpa using hback.symm⟩
    | cons b m => exact .inl ⟨b :: m, rfl, List.cons_ne_nil b m⟩
  · exact .inr ⟨m, rfl, hy⟩

theorem bind {second : α → Reader β} {T : α → Spelling β} (h₁ : Reads first S)
    (h₂ : ∀ a front, S a front → Reads (second a) (T a)) :
    Reads (Reader.bind first second) (S.bind T) where
  accepts := by
    rintro b _ ⟨a, front, back, rfl, ha, hb⟩ rest
    simp only [Reader.bind, List.append_assoc, h₁.accepts ha, (h₂ a front ha).accepts hb]
  spelled {bytes b rest} hread := by
    unfold Reader.bind at hread
    split at hread
    next => cases hread
    next a middle hfirst =>
      obtain ⟨front, rfl, ha⟩ := h₁.spelled hfirst
      obtain ⟨back, rfl, hb⟩ := (h₂ a front ha).spelled hread
      exact ⟨front ++ back, by rw [List.append_assoc], a, front, back, rfl, ha, hb⟩
  cut := by
    rintro b front back ⟨a, x, y, hbytes, ha, hb⟩ hback
    -- The first reader fails in its own part; behind that it does not, and the second one fails.
    rcases cases_of_cut hbytes with ⟨m, rfl, hm⟩ | ⟨m, rfl, rfl⟩
    · obtain ⟨fault, hfirst, hcut⟩ := h₁.cut ha hm
      exact ⟨fault, by simp only [Reader.bind, hfirst], hcut⟩
    · obtain ⟨fault, hsecond, hcut⟩ := (h₂ a x ha).cut hb hback
      exact ⟨fault, by simp only [Reader.bind, h₁.accepts ha m, hsecond], hcut⟩

end Reads

/-! ### Numbers and texts -/

theorem littleEndian_number (bytes : List UInt8) :
    littleEndian bytes.length (number bytes) = bytes := by
  induction bytes with
  | nil => rfl
  | cons b rest ih =>
    have hb := b.toNat_lt
    have hlow : UInt8.ofNat (b.toNat + 256 * number rest) = b := by
      apply UInt8.toNat.inj
      rw [UInt8.toNat_ofNat']
      omega
    have hhigh : (b.toNat + 256 * number rest) / 256 = number rest := by omega
    rw [List.length_cons, number, littleEndian, hlow, hhigh, ih]

theorem readNumber_of_short {width : Nat} {bytes : List UInt8} (h : bytes.length < width) :
    readNumber width bytes = .error .cut := by
  have hshort : (bytes.take width).length ≠ width := by
    rw [List.take_of_length_le (by omega)]
    omega
  exact if_neg hshort

theorem reads_number (width : Nat) : Reads (readNumber width) (Spelling.number width) where
  accepts := by
    rintro n _ ⟨hn, rfl⟩ rest
    exact Layout.readNumber_littleEndian hn rest
  spelled {bytes n rest} hread := by
    have hn := Layout.lt_of_readNumber hread
    unfold readNumber at hread
    simp only at hread
    split at hread
    next hlength =>
      obtain ⟨rfl, rfl⟩ := Prod.mk.inj (Except.ok.inj hread)
      have hnumber := littleEndian_number (bytes.take width)
      rw [hlength] at hnumber
      exact ⟨bytes.take width, (List.take_append_drop width bytes).symm, hn, hnumber.symm⟩
    next => cases hread
  cut {n front back} h hback := by
    refine ⟨.cut, readNumber_of_short ?_, rfl⟩
    have hlength := congrArg List.length h.2
    rw [List.length_append, Layout.length_littleEndian] at hlength
    have := List.length_pos_iff.2 hback
    omega

/-- So many bytes, which are a text. -/
def readBody (n : Nat) : Reader String := fun rest =>
  if (rest.take n).length = n then
    match Utf8.decode (rest.take n) with
    | .ok s => .ok (s, rest.drop n)
    | .error fault => .error (.text fault)
  else .error .cutText

theorem reads_body (n : Nat) :
    Reads (readBody n) fun s bytes => bytes = Utf8.encode s ∧ bytes.length = n where
  accepts := by
    rintro s _ ⟨rfl, rfl⟩ rest
    simp only [readBody, List.take_left, List.drop_left, if_true, Utf8.decode_encode]
  spelled {bytes s rest} hread := by
    unfold readBody at hread
    split at hread
    next hlength =>
      split at hread
      next s' hs =>
        obtain ⟨rfl, rfl⟩ := Prod.mk.inj (Except.ok.inj hread)
        refine ⟨bytes.take n, (List.take_append_drop n bytes).symm, ?_, hlength⟩
        exact (Utf8.encode_of_decode hs).symm
      next => cases hread
    next => cases hread
  cut {s front back} h hback := by
    -- The text is decoded only once all its bytes are there, so it may be cut within a character.
    have hlength := h.2
    rw [List.length_append] at hlength
    have := List.length_pos_iff.2 hback
    have hshort : (front.take n).length ≠ n := by
      rw [List.take_of_length_le (by omega)]
      omega
    exact ⟨.cutText, if_neg hshort, rfl⟩

theorem reads_text : Reads Layout.text.read Spelling.text := by
  refine ((reads_number 8).bind fun n _ _ => reads_body n).congr (fun bytes => ?_) fun s bytes => ?_
  · simp only [Layout.text, Reader.bind]
    cases readNumber 8 bytes <;> rfl
  constructor
  · rintro ⟨hfits, rfl⟩
    exact ⟨_, _, _, rfl, ⟨hfits, rfl⟩, rfl, rfl⟩
  · rintro ⟨_, _, _, rfl, ⟨hfits, rfl⟩, rfl, rfl⟩
    exact ⟨hfits, rfl⟩

theorem reads_instant : Reads Layout.instant.read Spelling.instant where
  accepts := by
    rintro i front ⟨s, hi, hs⟩ rest
    simp only [Layout.instant, reads_text.accepts hs rest, Instant.parse_eq_ok_iff.2 hi]
  spelled {bytes i rest} hread := by
    simp only [Layout.instant] at hread
    split at hread
    next => cases hread
    next s after htext =>
      split at hread
      next i' hparse =>
        obtain ⟨rfl, rfl⟩ := Prod.mk.inj (Except.ok.inj hread)
        obtain ⟨front, hbytes, hs⟩ := reads_text.spelled htext
        exact ⟨front, hbytes, s, Instant.parse_eq_ok_iff.1 hparse, hs⟩
      next => cases hread
  cut := by
    -- A date that is cut is a text that is cut, and is not parsed.
    rintro i front back ⟨s, -, hs⟩ hback
    obtain ⟨fault, hread, hcut⟩ := reads_text.cut hs hback
    exact ⟨fault, by simp only [Layout.instant, hread], hcut⟩

theorem reads_byte : Reads Layout.byte.read Spelling.byte where
  accepts := by
    rintro b _ rfl rest
    rfl
  spelled {bytes b rest} hread := by
    cases bytes with
    | nil => cases hread
    | cons b bytes =>
      obtain ⟨rfl, rfl⟩ := Prod.mk.inj (Except.ok.inj hread)
      exact ⟨[b], rfl, rfl⟩
  cut := by
    intro b front back h hback
    rcases List.append_eq_singleton_iff.1 h with ⟨rfl, -⟩ | ⟨-, rfl⟩
    · exact ⟨.cut, rfl, rfl⟩
    · exact absurd rfl hback

theorem reads_flag : Reads Layout.flag.read Spelling.flag where
  accepts := by
    rintro b _ rfl rest
    cases b <;> rfl
  spelled {bytes b rest} hread := by
    cases bytes with
    | nil => cases hread
    | cons first bytes =>
      simp only [Layout.flag] at hread
      split at hread
      next hzero =>
        obtain ⟨rfl, rfl⟩ := Prod.mk.inj (Except.ok.inj hread)
        exact ⟨[first], rfl, by rw [hzero]; rfl⟩
      next =>
        split at hread
        next hone =>
          obtain ⟨rfl, rfl⟩ := Prod.mk.inj (Except.ok.inj hread)
          exact ⟨[first], rfl, by rw [hone]; rfl⟩
        next => cases hread
  cut := by
    intro b front back h hback
    rcases List.append_eq_singleton_iff.1 h with ⟨rfl, -⟩ | ⟨-, rfl⟩
    · exact ⟨.cut, rfl, rfl⟩
    · exact absurd rfl hback

/-! ### Compound values -/

section Compound

variable {layout : Layout α} {first : Layout α} {second : Layout β} {S : Spelling α}
  {T : Spelling β}

theorem Reads.pair (h₁ : Reads first.read S) (h₂ : Reads second.read T) :
    Reads (Layout.pair first second).read (Spelling.pair S T) := by
  refine (h₁.bind fun a _ _ => h₂.map fun b => (a, b)).congr (fun _ => rfl) fun ab bytes => ?_
  constructor
  · rintro ⟨front, back, hbytes, ha, hb⟩
    exact ⟨ab.1, front, back, hbytes, ha, ab.2, rfl, hb⟩
  · rintro ⟨a, front, back, hbytes, ha, b, rfl, hb⟩
    exact ⟨front, back, hbytes, ha, hb⟩

theorem Reads.option (h : Reads layout.read S) :
    Reads (Layout.option layout).read (Spelling.option S) where
  accepts := by
    rintro a _ (_ | ha) rest
    · rfl
    · simp [Layout.option, h.accepts ha rest, Except.map]
  spelled {bytes a rest} hread := by
    cases bytes with
    | nil => cases hread
    | cons b bytes =>
      -- The first byte tells whether a value follows.
      simp only [Layout.option] at hread
      split at hread
      next hzero =>
        obtain ⟨rfl, rfl⟩ := Prod.mk.inj (Except.ok.inj hread)
        exact ⟨[b], rfl, by rw [hzero]; exact .none⟩
      next =>
        split at hread
        next hone =>
          obtain ⟨_, hbytes, a, rfl, ha⟩ := (h.map some).spelled hread
          exact ⟨b :: _, by rw [hbytes]; rfl, by rw [hone]; exact .some ha⟩
        next => cases hread
  cut := by
    intro a front back ha hback
    cases front with
    | nil => exact ⟨.cut, rfl, rfl⟩
    | cons b front =>
      generalize hbytes : b :: front ++ back = bytes at ha
      cases ha with
      | none => exact absurd (List.append_eq_nil_iff.1 (List.cons.inj hbytes).2).2 hback
      | some ha =>
        obtain ⟨rfl, rfl⟩ := List.cons.inj hbytes
        obtain ⟨fault, hread, hcut⟩ := h.cut ha hback
        exact ⟨fault, by simp [Layout.option, hread, Except.map], hcut⟩

theorem Reads.many (h : Reads layout.read S) (count : Nat) :
    Reads (readMany layout count) fun as bytes => as.length = count ∧ Spelling.many S as bytes := by
  -- Induction on the count, as the reader has it: a value is read, and then the others.
  induction count with
  | zero =>
    refine (Reads.nothing []).congr (fun _ => rfl) fun as bytes => ?_
    constructor
    · rintro ⟨hlength, has⟩
      obtain rfl := List.length_eq_zero_iff.1 hlength
      cases has
      exact ⟨rfl, rfl⟩
    · rintro ⟨rfl, rfl⟩
      exact ⟨rfl, .nil⟩
  | succ count ih =>
    refine (h.bind fun a _ _ => ih.map (a :: ·)).congr (fun _ => rfl) fun as bytes => ?_
    constructor
    · rintro ⟨hlength, has⟩
      cases has with
      | nil => cases hlength
      | cons ha has => exact ⟨_, _, _, rfl, ha, _, rfl, Nat.succ.inj hlength, has⟩
    · rintro ⟨a, front, back, rfl, ha, as, rfl, hlength, has⟩
      exact ⟨congrArg Nat.succ hlength, .cons ha has⟩

theorem Reads.list (h : Reads layout.read S) :
    Reads (Layout.list layout).read (Spelling.list S) := by
  refine ((reads_number 8).bind fun count _ _ => h.many count).congr (fun bytes => ?_)
    fun as bytes => ?_
  · simp only [Layout.list, Reader.bind]
    cases readNumber 8 bytes <;> rfl
  constructor
  · rintro ⟨hlength, back, rfl, has⟩
    exact ⟨as.length, _, back, rfl, ⟨hlength, rfl⟩, rfl, has⟩
  · rintro ⟨_, _, back, rfl, ⟨hlength, rfl⟩, rfl, has⟩
    exact ⟨hlength, back, rfl, has⟩

theorem Reads.iso (h : Reads layout.read S) (wrap : α → β) (unwrap : β → α) :
    Reads (layout.iso wrap unwrap).read (S.map wrap) :=
  h.map wrap

theorem Reads.textMap (h : Reads layout.read S) :
    Reads (Layout.textMap layout).read (Spelling.textMap S) :=
  (reads_text.pair h).list.iso _ _

/-- The number of an alternative. -/
theorem reads_variant {count : Nat} (hcount : count ≤ 256) :
    Reads (readVariant count) fun n bytes => n < count ∧ bytes = littleEndian 4 n where
  accepts := by
    rintro n _ ⟨hn, rfl⟩ rest
    exact Layout.readVariant_littleEndian hn hcount rest
  spelled {bytes n rest} hread := by
    unfold readVariant at hread
    split at hread
    next => cases hread
    next n' after hnumber =>
      split at hread
      next hlt =>
        obtain ⟨rfl, rfl⟩ := Prod.mk.inj (Except.ok.inj hread)
        obtain ⟨front, hbytes, hfront⟩ := (reads_number 4).spelled hnumber
        exact ⟨front, hbytes, hlt, hfront.2⟩
      next => cases hread
  cut {n front back} h hback := by
    have hnumber : Spelling.number 4 n (front ++ back) := ⟨by omega, h.2⟩
    obtain ⟨fault, hread, hcut⟩ := (reads_number 4).cut hnumber hback
    exact ⟨fault, by simp only [readVariant, hread], hcut⟩

/-- An alternative is read after its number. -/
theorem Reads.oneOf {read : Reader α} {alternatives : List (Spelling α)} {count : Nat}
    (hlength : alternatives.length = count) (hcount : count ≤ 256) (branch : Nat → Reader α)
    (hbranch : ∀ n (h : n < alternatives.length), Reads (branch n) alternatives[n])
    (hread : ∀ bytes, read bytes = Reader.bind (readVariant count) branch bytes) :
    Reads read (Spelling.oneOf alternatives) := by
  subst hlength
  -- Only the numbers of alternatives are read, so the branch is there.
  have hchosen : ∀ n front, (n < alternatives.length ∧ front = littleEndian 4 n) →
      Reads (branch n) fun a back => ∃ S, alternatives[n]? = some S ∧ S a back := by
    rintro n front ⟨hn, -⟩
    refine (hbranch n hn).congr (fun _ => rfl) fun a back => ?_
    simp only [List.getElem?_eq_getElem hn, Option.some.injEq, exists_eq_left']
  refine ((reads_variant hcount).bind hchosen).congr hread fun a bytes => ?_
  constructor
  · rintro ⟨n, S, back, hS, rfl, ha⟩
    have hn := (List.getElem?_eq_some_iff.1 hS).1
    exact ⟨n, _, back, rfl, ⟨hn, rfl⟩, S, hS, ha⟩
  · rintro ⟨n, _, back, rfl, ⟨-, rfl⟩, S, hS, ha⟩
    exact ⟨n, S, back, hS, rfl, ha⟩

end Compound

/-! ### Tickets -/

theorem reads_service : Reads Layout.service.read Spelling.service := reads_text.iso _ _

theorem reads_attributeValue : Reads Layout.attributeValue.read Spelling.attributeValue := by
  refine .oneOf rfl (by decide) (fun
    | 0 => Reader.map Layout.text.read .single
    | _ => Reader.map (Layout.list Layout.text).read .multi) ?_ fun bytes => ?_
  · rintro (_ | _ | n) hn
    · exact reads_text.map _
    · exact reads_text.list.map _
    · exact absurd hn (by simp)
  · simp only [Layout.attributeValue, Reader.bind]
    rcases readVariant 2 bytes with fault | ⟨_ | n, rest⟩ <;> rfl

theorem reads_attributes : Reads Layout.attributes.read Spelling.attributes :=
  reads_attributeValue.textMap

theorem reads_principal : Reads Layout.principal.read Spelling.principal :=
  (reads_text.pair reads_attributes).iso _ _

theorem reads_credentialSummary :
    Reads Layout.credentialSummary.read Spelling.credentialSummary :=
  (reads_text.pair reads_text).iso _ _

theorem reads_handlerReport : Reads Layout.handlerReport.read Spelling.handlerReport :=
  (reads_text.pair (reads_credentialSummary.pair
    (reads_principal.option.pair reads_text.list))).iso _ _

theorem reads_authentication : Reads Layout.authentication.read Spelling.authentication :=
  (reads_principal.pair (reads_credentialSummary.list.pair (reads_handlerReport.textMap.pair
    (reads_text.textMap.pair (reads_attributes.pair reads_instant))))).iso _ _

theorem reads_seconds : Reads Layout.seconds.read Spelling.seconds :=
  ((reads_number 8).map _).iso _ _

theorem reads_expirationPolicy :
    Reads Layout.expirationPolicy.read Spelling.expirationPolicy := by
  refine .oneOf rfl (by decide) (fun
    | 0 => fun bytes => .ok (.never, bytes)
    | 1 => fun bytes => .ok (.always, bytes)
    | _ => Reader.map Layout.seconds.read .after) ?_ fun bytes => ?_
  · rintro (_ | _ | _ | n) hn
    · exact .nothing _
    · exact .nothing _
    · exact reads_seconds.map _
    · exact absurd hn (by simp)
  · simp only [Layout.expirationPolicy, Reader.bind]
    rcases readVariant 3 bytes with fault | ⟨_ | _ | n, rest⟩ <;> rfl

theorem reads_session : Reads Layout.session.read Spelling.session :=
  (reads_text.pair (reads_instant.pair (reads_expirationPolicy.pair
    (reads_authentication.pair (reads_service.textMap.pair reads_service.textMap))))).iso _ _

theorem reads_serviceTicket : Reads Layout.serviceTicket.read Spelling.serviceTicket :=
  (reads_text.pair (reads_instant.pair (reads_expirationPolicy.pair
    (reads_text.pair (reads_service.pair reads_flag))))).iso _ _

theorem reads_proxyTicket : Reads Layout.proxyTicket.read Spelling.proxyTicket :=
  (reads_session.pair (reads_text.pair reads_service)).iso _ _

theorem reads_sealedTicket : Reads Layout.sealedTicket.read Spelling.sealedTicket :=
  (reads_text.pair reads_byte.list).iso _ _

/-- Tickets of any kind are read by their spellings. -/
theorem reads_ticket : Reads Layout.ticket.read Spelling.ticket := by
  refine .oneOf rfl (by decide) (fun
    | 0 => Reader.map Layout.session.read .session
    | 1 => Reader.map Layout.serviceTicket.read .service
    | 2 => Reader.map Layout.proxyTicket.read .proxy
    | _ => Reader.map Layout.sealedTicket.read .sealed) ?_ fun bytes => ?_
  · rintro (_ | _ | _ | _ | n) hn
    · exact reads_session.map _
    · exact reads_serviceTicket.map _
    · exact reads_proxyTicket.map _
    · exact reads_sealedTicket.map _
    · exact absurd hn (by simp)
  · simp only [Layout.ticket, Reader.bind]
    rcases readVariant 4 bytes with fault | ⟨_ | _ | _ | n, rest⟩ <;> rfl

/-! ### Serialized values -/

section Serialized

variable {layout : Layout α} {S : Spelling α} {a : α} {bytes : List UInt8}

/-- What is deserialized is what the bytes begin with. -/
theorem Reads.deserialize_eq_ok_iff (h : Reads layout.read S) :
    layout.deserialize bytes = .ok a ↔ S.Begins bytes a := by
  constructor
  · intro ha
    obtain ⟨⟨_, rest⟩, hread, rfl⟩ := map_eq_ok_iff.1 ha
    obtain ⟨front, hbytes, ha⟩ := h.spelled hread
    exact ⟨front, rest, hbytes, ha⟩
  · rintro ⟨front, rest, rfl, ha⟩
    rw [Layout.deserialize, h.accepts ha rest]
    rfl

/-- The bytes of a value spell what it is read back as. -/
theorem Reads.spells_of_serialize {reread : α → α} (h : Reads layout.read S)
    (hrereads : layout.Rereads reread) (hbytes : layout.serialize a = .ok bytes) :
    S (reread a) bytes := by
  unfold Layout.serialize at hbytes
  split at hbytes
  next hfits =>
    obtain rfl := Except.ok.inj hbytes
    obtain ⟨front, hfront, ha⟩ := h.spelled (hrereads.read_write a [] hfits)
    rw [List.append_nil, List.append_nil] at hfront
    rwa [hfront]
  next => cases hbytes

end Serialized

/-- The two failures that are told when bytes end too early. -/
theorem ofFault_of_isCut {fault : Fault} (h : fault.isCut = true) :
    RegistryError.ofFault fault = .serialization "io error: unexpected end of file" ∨
      RegistryError.ofFault fault = .serialization "io error: " := by
  cases fault with
  | cut => exact .inl rfl
  | cutText => exact .inr rfl
  | _ => cases h

/-- The stored format says where a ticket ends. Whatever bytes follow a serialized ticket, the
ticket is read with its dates as they are read back, and the bytes that follow are left; this is the
ticket itself exactly if none of its dates is a leap second within a minute. If the serialized
ticket is cut short anywhere, no ticket is read, and the failure tells that the bytes ended too
early. So no serialized ticket goes on with another one, and tickets are serialized alike exactly if
their dates are all that distinguishes them, and are read back alike. -/
theorem ticket_selfDelimiting {t : Ticket} {bytes : List UInt8}
    (h : Layout.ticket.serialize t = .ok bytes) :
    (∀ rest, Layout.ticket.read (bytes ++ rest) = .ok (t.mapDates .reread, rest) ∧
      Layout.ticket.deserialize (bytes ++ rest) = .ok (t.mapDates .reread)) ∧
    (t.mapDates .reread = t ↔ ∀ i ∈ t.dates, i.OnMinute) ∧
    (∀ front, front <+: bytes → front ≠ bytes → ∃ fault,
      Layout.ticket.deserialize front = .error fault ∧
        (RegistryError.ofFault fault = .serialization "io error: unexpected end of file" ∨
          RegistryError.ofFault fault = .serialization "io error: ")) ∧
    ∀ t' bytes', Layout.ticket.serialize t' = .ok bytes' →
      (bytes <+: bytes' → bytes = bytes') ∧
        (bytes = bytes' ↔ t.mapDates .reread = t'.mapDates .reread) := by
  have hspells := reads_ticket.spells_of_serialize Layout.rereads_ticket h
  refine ⟨fun rest => ⟨reads_ticket.accepts hspells rest, ?_⟩, Ticket.mapDates_reread_eq_self_iff,
    ?_, fun t' bytes' h' => ?_⟩
  · exact reads_ticket.deserialize_eq_ok_iff.2 ⟨bytes, rest, rfl, hspells⟩
  · -- A strict prefix is a spelling that is cut.
    rintro front ⟨back, rfl⟩ hne
    have hback : back ≠ [] := by
      rintro rfl
      exact hne (List.append_nil front).symm
    obtain ⟨fault, hread, hcut⟩ := reads_ticket.cut hspells hback
    refine ⟨fault, ?_, ofFault_of_isCut hcut⟩
    rw [Layout.deserialize, hread]
    rfl
  · -- The longer bytes spell a ticket too, so there is nothing behind the shorter ones.
    have hspells' := reads_ticket.spells_of_serialize Layout.rereads_ticket h'
    have heq : bytes <+: bytes' → t.mapDates .reread = t'.mapDates .reread ∧ bytes = bytes' := by
      rintro ⟨back, rfl⟩
      obtain ⟨heq, rfl⟩ := reads_ticket.eq_of_append hspells hspells'
      exact ⟨heq, (List.append_nil bytes).symm⟩
    refine ⟨fun hprefix => (heq hprefix).2, fun hbytes => (heq (hbytes ▸ List.prefix_rfl)).1,
      fun hreread => ?_⟩
    -- What is read back is serialized like what was written.
    have hread := Layout.rereads_ticket.serialize_reread h
    rw [hreread, Layout.rereads_ticket.serialize_reread h'] at hread
    exact (Except.ok.inj hread).symm

/-- A service ticket with an identifier of three bytes, of which the last two are one character: the
bytes are cut within the number of the kind, within the length of the identifier and within that
character. -/
theorem ticket_selfDelimiting_twoByteLetter :
    let now : Instant := ⟨⟨2024, 2, 29, by decide⟩, 0, 0, by decide, by decide⟩
    let t : Ticket := .service ⟨"Sé", now, .after 8, "TGT-1", ⟨"https://a"⟩, true⟩
    ∃ bytes, Layout.ticket.serialize t = .ok bytes ∧
      (∀ rest, Layout.ticket.deserialize (bytes ++ rest) = .ok t) ∧
      ∀ n ∈ [3, 11, 14], ∃ fault, Layout.ticket.deserialize (bytes.take n) = .error fault := by
  intro now t
  have hbytes : Layout.ticket.serialize t = .ok (Layout.ticket.write t) := if_pos (by decide)
  obtain ⟨hread, -, hcut, -⟩ := ticket_selfDelimiting hbytes
  refine ⟨_, hbytes, fun rest => (hread rest).2, fun n hn => ?_⟩
  have hlong : ∀ n ∈ [3, 11, 14], n < (Layout.ticket.write t).length := by decide
  have hne : (Layout.ticket.write t).take n ≠ Layout.ticket.write t := by
    intro heq
    have hlength := congrArg List.length heq
    rw [List.length_take] at hlength
    have := hlong n hn
    omega
  obtain ⟨fault, hfault, -⟩ := hcut _ (List.take_prefix n _) hne
  exact ⟨fault, hfault⟩

/-- A leap second within a minute and the second after it: two different tickets with the same
bytes, from which the second ticket is read. -/
theorem serialize_withinMinute :
    let leap : Instant := ⟨⟨2024, 1, 1, by decide⟩, 86164, 1333333333, by decide, by decide⟩
    let next : Instant := ⟨⟨2024, 1, 1, by decide⟩, 86165, 333333333, by decide, by decide⟩
    let ticket (created : Instant) : Ticket :=
      .service ⟨"ST-1", created, .never, "TGT-1", ⟨"app"⟩, false⟩
    ticket leap ≠ ticket next ∧
      ∃ bytes, Layout.ticket.serialize (ticket leap) = .ok bytes ∧
        Layout.ticket.serialize (ticket next) = .ok bytes ∧
        Layout.ticket.deserialize bytes = .ok (ticket next) := by
  intro leap next ticket
  have hbytes : Layout.ticket.serialize (ticket leap) = .ok (Layout.ticket.write (ticket leap)) :=
    if_pos (by decide)
  have hread : (ticket leap).mapDates .reread = ticket next := by decide
  refine ⟨by decide, _, hbytes, ?_, ?_⟩
  · rw [← hread]
    exact Layout.rereads_ticket.serialize_reread hbytes
  · rw [← hread]
    exact Layout.rereads_ticket.deserialize_serialize hbytes

end SignOn.Wire
