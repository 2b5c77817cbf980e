import SignOn.Proofs.Calendar.Spelling
import SignOn.TextMap.Lemmas
import SignOn.Wire.Layout

/-!
# Laws of layouts

A layout is lawful if it reads back what it writes, whatever bytes follow, and if whatever it reads
can be written again. Only the lengths of a value decide whether it can be written: a value that was
read came with its lengths in sixty-four bits. Every combinator of layouts keeps both laws.

Dates are the exception: a leap second within a minute is read back as the second that follows. So
the laws are stated for a layout that reads back a certain form of what it writes, and a value that
was read has this form.

## Main definitions

* `Layout.Rereads` - the laws of a layout that reads back a form of what it writes
* `Layout.Lawful` - the laws of a layout that reads back what it writes

## Main results

* `Layout.lawful_text`, `Layout.rereads_instant` - texts and instants
* `Layout.Rereads.pair`, `Layout.Rereads.iso` - compound values of either sort
* `Layout.Lawful.option`, `Layout.Lawful.list`, `Layout.Lawful.textMap` - compound values that are
  read back as they are
* `Layout.Rereads.deserialize_serialize` - what is serialized is deserialized
-/

namespace SignOn

open Wire (Fault)

namespace TextMap

universe u

variable {α : Type u} {m : TextMap α}

/-- Every entry of a map that is made from a list is one of the list. -/
theorem mem_of_mem_ofList {entries : List (String × α)} {e : String × α}
    (h : e ∈ (ofList entries).entries) : e ∈ entries := by
  obtain ⟨key, a⟩ := e
  have hget := mem_entries_iff.1 h
  rw [ofList, get?_insertMany, get?_empty, Option.or_none] at hget
  exact List.mem_reverse.1 (mem_of_lookup hget)

private theorem length_insertEntry_le (key : String) (a : α) (entries : List (String × α)) :
    (insertEntry key a entries).length ≤ entries.length + 1 := by
  induction entries with
  | nil => simp [insertEntry]
  | cons head rest ih =>
    simp only [insertEntry]
    split
    · simp
    · split
      · simp
      · simpa using ih

theorem length_insertMany_le (m : TextMap α) (entries : List (String × α)) :
    (m.insertMany entries).entries.length ≤ m.entries.length + entries.length := by
  induction entries generalizing m with
  | nil => simp [insertMany]
  | cons e es ih =>
    have hstep := length_insertEntry_le e.1 e.2 m.entries
    have := ih (m.insert e.1 e.2)
    simp only [insertMany_cons, List.length_cons]
    have hinsert : (m.insert e.1 e.2).entries = insertEntry e.1 e.2 m.entries := rfl
    rw [hinsert] at this
    omega

end TextMap

namespace Layout

variable {α β : Type} {layout first : Layout α} {second : Layout β}

/-- A layout reads back a form of what it writes. What it reads has this form and can be written. -/
structure Rereads (layout : Layout α) (reread : α → α) : Prop where
  /-- What is written is read back in its form, and the bytes after it are left. -/
  read_write : ∀ a rest, layout.fits a = true →
    layout.read (layout.write a ++ rest) = .ok (reread a, rest)
  /-- The lengths in a value that was read fit into sixty-four bits. -/
  fits_of_read : ∀ {bytes a rest}, layout.read bytes = .ok (a, rest) → layout.fits a = true
  /-- A value that was read has the form already. -/
  reread_of_read : ∀ {bytes a rest}, layout.read bytes = .ok (a, rest) → reread a = a
  /-- A value is written like its form. -/
  write_reread : ∀ a, layout.write (reread a) = layout.write a

/-- A layout reads back what it writes, and what it reads can be written. -/
def Lawful (layout : Layout α) : Prop := layout.Rereads id

section Rereads

variable {reread : α → α}

/-- What is serialized is deserialized. -/
theorem Rereads.deserialize_serialize (h : layout.Rereads reread) {a : α} {bytes : List UInt8}
    (hbytes : layout.serialize a = .ok bytes) : layout.deserialize bytes = .ok (reread a) := by
  unfold serialize at hbytes
  split at hbytes
  next hfits =>
    obtain rfl := Except.ok.inj hbytes
    have hread := h.read_write a [] hfits
    rw [List.append_nil] at hread
    rw [deserialize, hread]
    rfl
  next => cases hbytes

/-- What is deserialized can be serialized, and has the form that is read back. -/
theorem Rereads.of_deserialize (h : layout.Rereads reread) {a : α} {bytes : List UInt8}
    (ha : layout.deserialize bytes = .ok a) : layout.fits a = true ∧ reread a = a := by
  obtain ⟨⟨_, rest⟩, hread, rfl⟩ := map_eq_ok_iff.1 ha
  exact ⟨h.fits_of_read hread, h.reread_of_read hread⟩

/-- With a value, its form can be written. -/
theorem Rereads.fits_reread (h : layout.Rereads reread) {a : α} (ha : layout.fits a = true) :
    layout.fits (reread a) = true :=
  h.fits_of_read (h.read_write a [] ha)

theorem Rereads.serialize_reread (h : layout.Rereads reread) {a : α} {bytes : List UInt8}
    (hbytes : layout.serialize a = .ok bytes) : layout.serialize (reread a) = .ok bytes := by
  unfold serialize at hbytes
  split at hbytes
  next hfits =>
    obtain rfl := Except.ok.inj hbytes
    rw [serialize, if_pos (h.fits_reread hfits), h.write_reread]
  next => cases hbytes

end Rereads

theorem Lawful.read_write (h : layout.Lawful) (a : α) (rest : List UInt8)
    (hfits : layout.fits a = true) : layout.read (layout.write a ++ rest) = .ok (a, rest) :=
  Rereads.read_write h a rest hfits

/-! ### Numbers -/

/-- The bytes of a number that fits their width denote it. -/
theorem number_littleEndian {width n : Nat} (h : n < 256 ^ width) :
    number (littleEndian width n) = n := by
  induction width generalizing n with
  | zero => simp only [Nat.pow_zero, Nat.lt_one_iff] at h; subst h; rfl
  | succ width ih =>
    have hdiv : n / 256 < 256 ^ width := by
      rw [Nat.div_lt_iff_lt_mul (by decide)]
      simpa [Nat.pow_succ] using h
    simp only [littleEndian, number, ih hdiv, UInt8.toNat_ofNat']
    omega

theorem number_lt (bytes : List UInt8) : number bytes < 256 ^ bytes.length := by
  induction bytes with
  | nil => simp [number]
  | cons b rest ih =>
    have hb := b.toNat_lt
    simp only [number, List.length_cons, Nat.pow_succ]
    omega

/-- A number that fits its width is read back. -/
theorem readNumber_littleEndian {width n : Nat} (h : n < 256 ^ width) (rest : List UInt8) :
    readNumber width (littleEndian width n ++ rest) = .ok (n, rest) := by
  have htake : (littleEndian width n ++ rest).take width = littleEndian width n :=
    List.take_left' (length_littleEndian width n)
  have hdrop : (littleEndian width n ++ rest).drop width = rest :=
    List.drop_left' (length_littleEndian width n)
  simp only [readNumber, htake, hdrop, length_littleEndian, if_true, number_littleEndian h]

/-- A number that was read fits its width. -/
theorem lt_of_readNumber {width n : Nat} {bytes rest : List UInt8}
    (h : readNumber width bytes = .ok (n, rest)) : n < 256 ^ width := by
  simp only [readNumber] at h
  split at h
  next hlength =>
    obtain ⟨rfl, -⟩ := Prod.mk.inj (Except.ok.inj h)
    have hlt := number_lt (bytes.take width)
    rwa [hlength] at hlt
  next => cases h

/-- The number of an alternative is read back. -/
theorem readVariant_littleEndian {count index : Nat} (h : index < count) (hcount : count ≤ 256)
    (rest : List UInt8) :
    readVariant count (littleEndian 4 index ++ rest) = .ok (index, rest) := by
  have hread : readNumber 4 (littleEndian 4 index ++ rest) = .ok (index, rest) :=
    readNumber_littleEndian (by omega) rest
  simp only [readVariant, hread, h, if_true]

theorem lawful_word : word.Lawful where
  read_write w rest _ := by
    have hread : readNumber 8 (littleEndian 8 w.toNat ++ rest) = .ok (w.toNat, rest) :=
      readNumber_littleEndian w.toNat_lt rest
    simp [word, hread, Except.map]
  fits_of_read _ := rfl
  reread_of_read _ := rfl
  write_reread _ := rfl

theorem lawful_byte : byte.Lawful where
  read_write _ _ _ := rfl
  fits_of_read _ := rfl
  reread_of_read _ := rfl
  write_reread _ := rfl

theorem lawful_flag : flag.Lawful where
  read_write b rest _ := by cases b <;> rfl
  fits_of_read _ := rfl
  reread_of_read _ := rfl
  write_reread _ := rfl

/-! ### Texts -/

theorem lawful_text : text.Lawful where
  read_write s rest hfits := by
    have hlength : (Utf8.encode s).length < UInt64.size := by simpa [text] using hfits
    have hread : readNumber 8 (writeLength (Utf8.encode s).length ++ (Utf8.encode s ++ rest)) =
        .ok ((Utf8.encode s).length, Utf8.encode s ++ rest) :=
      readNumber_littleEndian hlength _
    simp only [text, List.append_assoc, hread, List.take_left, List.drop_left, if_true,
      Utf8.decode_encode, id_eq]
  fits_of_read {bytes s rest} h := by
    simp only [text] at h
    split at h
    next => cases h
    next n body hread =>
      have hn : n < UInt64.size := lt_of_readNumber hread
      split at h
      next hbody =>
        split at h
        next t hdecode =>
          obtain ⟨rfl, -⟩ := Prod.mk.inj (Except.ok.inj h)
          -- The text is as long as the bytes that it was read from.
          have hencode := Utf8.encode_of_decode hdecode
          have hlength : (Utf8.encode t).length = n := by rw [hencode, hbody]
          exact decide_eq_true (hlength ▸ hn)
        next => cases h
      next => cases h
  reread_of_read _ := rfl
  write_reread _ := rfl

private theorem length_utf8Encode_le (cs : List Char) : cs.utf8Encode.size ≤ 4 * cs.length := by
  induction cs with
  | nil => simp
  | cons c cs ih =>
    have hc := c.utf8Size_le_four
    rw [List.utf8Encode_cons, ByteArray.size_append, List.length_cons]
    have hone : [c].utf8Encode.size = c.utf8Size := by simp [List.utf8Encode_singleton]
    omega

/-- A written instant is a short text. -/
theorem fits_text_toText (i : Instant) : text.fits i.toText = true := by
  have hchars := i.length_toChars_le
  have hbytes := length_utf8Encode_le i.toChars
  have hencode : (Utf8.encode i.toText).length = i.toChars.utf8Encode.size := by
    simp [Utf8.encode, Instant.toText, String.toByteArray_ofList]
  simp only [text, decide_eq_true_eq, hencode, UInt64.size]
  omega

theorem fits_instant (i : Instant) : instant.fits i = true := by
  simp only [instant]
  exact fits_text_toText i

/-- A date is read back but for a leap second within a minute, which none that was read has. -/
theorem rereads_instant : instant.Rereads Instant.reread where
  read_write i rest _ := by
    simp only [instant, lawful_text.read_write i.toText rest (fits_text_toText i),
      Instant.parse_toText]
  fits_of_read _ := fits_instant _
  reread_of_read {_ i _} h := by
    simp only [instant] at h
    split at h
    next => cases h
    next s rest _ =>
      split at h
      next j hparse =>
        obtain ⟨rfl, -⟩ := Prod.mk.inj (Except.ok.inj h)
        exact Instant.reread_of_onMinute (Instant.onMinute_of_parse hparse)
      next => cases h
  write_reread i := by simp only [instant, Instant.toText_reread]

/-! ### Compound values -/

/-- Of a pair, one value is read after the other. -/
theorem reads_of_pair {bytes rest : List UInt8} {ab : α × β}
    (h : (pair first second).read bytes = .ok (ab, rest)) :
    ∃ middle, first.read bytes = .ok (ab.1, middle) ∧ second.read middle = .ok (ab.2, rest) := by
  simp only [Layout.pair] at h
  split at h
  next => cases h
  next a middle ha =>
    obtain ⟨b, hb, rfl⟩ := exists_read_of_map h
    exact ⟨middle, ha, hb⟩

/-- A type whose values correspond to those of a stored one. -/
theorem Rereads.iso {wrap : α → β} {unwrap : β → α} {f : α → α} {g : β → β}
    (h : layout.Rereads f) (hwrap : ∀ b, wrap (f (unwrap b)) = g b)
    (hunwrap : ∀ b, unwrap (g b) = f (unwrap b)) (hform : ∀ a, f a = a → g (wrap a) = wrap a)
    (hfits : ∀ a, layout.fits a → layout.fits (unwrap (wrap a))) :
    (layout.iso wrap unwrap).Rereads g where
  read_write b rest hb := by
    simp only [Layout.iso, h.read_write (unwrap b) rest hb, Except.map, hwrap]
  fits_of_read {bytes b rest} hread := by
    obtain ⟨a, ha, rfl⟩ := exists_read_of_map hread
    exact hfits a (h.fits_of_read ha)
  reread_of_read {bytes b rest} hread := by
    obtain ⟨a, ha, rfl⟩ := exists_read_of_map hread
    exact hform a (h.reread_of_read ha)
  write_reread b := by simp only [Layout.iso, hunwrap, h.write_reread]

/-- A record, which corresponds to the tuple of its fields. -/
theorem Rereads.record {wrap : α → β} {unwrap : β → α} {f : α → α} {g : β → β}
    (h : layout.Rereads f) (hwrap : ∀ b, wrap (f (unwrap b)) = g b)
    (hback : ∀ a, unwrap (wrap a) = a) : (layout.iso wrap unwrap).Rereads g :=
  h.iso hwrap (fun b => by rw [← hwrap, hback]) (fun a ha => by rw [← hwrap, hback, ha])
    fun a ha => (hback a).symm ▸ ha

/-- A type whose values correspond to those of a lawfully stored one. -/
theorem Lawful.iso {wrap : α → β} {unwrap : β → α} (h : layout.Lawful)
    (hwrap : ∀ b, wrap (unwrap b) = b)
    (hfits : ∀ a, layout.fits a → layout.fits (unwrap (wrap a))) :
    (layout.iso wrap unwrap).Lawful :=
  Rereads.iso h hwrap (fun _ => rfl) (fun _ _ => rfl) hfits

theorem Rereads.pair {f : α → α} {g : β → β} (h₁ : first.Rereads f) (h₂ : second.Rereads g) :
    (pair first second).Rereads (Prod.map f g) where
  read_write ab rest hfits := by
    obtain ⟨ha, hb⟩ := Bool.and_eq_true_iff.1 hfits
    simp only [Layout.pair, List.append_assoc, h₁.read_write ab.1 _ ha, h₂.read_write ab.2 _ hb,
      Except.map]
    rfl
  fits_of_read {bytes ab rest} h := by
    obtain ⟨middle, ha, hb⟩ := reads_of_pair h
    exact Bool.and_eq_true_iff.2 ⟨h₁.fits_of_read ha, h₂.fits_of_read hb⟩
  reread_of_read {bytes ab rest} h := by
    obtain ⟨middle, ha, hb⟩ := reads_of_pair h
    exact Prod.ext (h₁.reread_of_read ha) (h₂.reread_of_read hb)
  write_reread ab := by
    simp only [Layout.pair, Prod.map_fst, Prod.map_snd, h₁.write_reread, h₂.write_reread]

theorem Lawful.pair (h₁ : first.Lawful) (h₂ : second.Lawful) : (pair first second).Lawful :=
  Rereads.pair h₁ h₂

theorem Lawful.option (h : layout.Lawful) : (option layout).Lawful where
  read_write a rest hfits := by
    cases a with
    | none => rfl
    | some a =>
      have hread := h.read_write a rest hfits
      simp [Layout.option, hread, Except.map]
  fits_of_read {bytes a rest} hread := by
    cases bytes with
    | nil => cases hread
    | cons b bytes =>
      -- The first byte tells whether a value follows.
      simp only [Layout.option] at hread
      split at hread
      next =>
        obtain ⟨rfl, -⟩ := Prod.mk.inj (Except.ok.inj hread)
        rfl
      next =>
        split at hread
        next =>
          obtain ⟨a', ha, rfl⟩ := exists_read_of_map hread
          exact h.fits_of_read ha
        next => cases hread
  reread_of_read _ := rfl
  write_reread _ := rfl

theorem Lawful.readMany_flatMap (h : layout.Lawful) {as : List α}
    (hfits : as.all layout.fits = true) (rest : List UInt8) :
    readMany layout as.length (as.flatMap layout.write ++ rest) = .ok (as, rest) := by
  induction as with
  | nil => rfl
  | cons a as ih =>
    rw [List.all_cons, Bool.and_eq_true] at hfits
    simp only [List.flatMap_cons, List.append_assoc, List.length_cons, readMany,
      h.read_write a _ hfits.1, ih hfits.2, Except.map]

theorem Lawful.fits_of_readMany (h : layout.Lawful) {count : Nat} {bytes rest : List UInt8}
    {as : List α} (hread : readMany layout count bytes = .ok (as, rest)) :
    as.length = count ∧ as.all layout.fits = true := by
  induction count generalizing bytes as rest with
  | zero =>
    obtain ⟨rfl, -⟩ := Prod.mk.inj (Except.ok.inj hread)
    exact ⟨rfl, rfl⟩
  | succ count ih =>
    simp only [readMany] at hread
    split at hread
    next => cases hread
    next a middle ha =>
      obtain ⟨as', has, rfl⟩ := exists_read_of_map hread
      obtain ⟨hlength, hall⟩ := ih has
      exact ⟨by simp [hlength], by simp [h.fits_of_read ha, hall]⟩

theorem Lawful.list (h : layout.Lawful) : (list layout).Lawful where
  read_write as rest hfits := by
    obtain ⟨hlength, hall⟩ := Bool.and_eq_true_iff.1 hfits
    have hlength : as.length < UInt64.size := of_decide_eq_true hlength
    have hread : readNumber 8 (writeLength as.length ++ (as.flatMap layout.write ++ rest)) =
        .ok (as.length, as.flatMap layout.write ++ rest) :=
      readNumber_littleEndian hlength _
    simp only [Layout.list, List.append_assoc, hread, h.readMany_flatMap hall, id_eq]
  fits_of_read {bytes as rest} hread := by
    simp only [Layout.list] at hread
    split at hread
    next => cases hread
    next count middle hcount =>
      obtain ⟨hlength, hall⟩ := h.fits_of_readMany hread
      have hlt : count < UInt64.size := lt_of_readNumber hcount
      exact Bool.and_eq_true_iff.2 ⟨decide_eq_true (hlength ▸ hlt), hall⟩
  reread_of_read _ := rfl
  write_reread _ := rfl

/-- A map is written in the order of its keys. What is read may repeat keys and come in any order,
so it becomes a map that is no longer than it. -/
theorem Lawful.textMap (h : layout.Lawful) : (textMap layout).Lawful := by
  refine (lawful_text.pair h).list.iso TextMap.ofList_entries fun entries hfits => ?_
  obtain ⟨hlength, hall⟩ := Bool.and_eq_true_iff.1 hfits
  have hlength : entries.length < UInt64.size := of_decide_eq_true hlength
  have hle : (TextMap.ofList entries).entries.length ≤ entries.length := by
    simpa [TextMap.ofList, TextMap.empty] using TextMap.length_insertMany_le .empty entries
  refine Bool.and_eq_true_iff.2 ⟨decide_eq_true (Nat.lt_of_le_of_lt hle hlength), ?_⟩
  refine List.all_eq_true.2 fun e he => ?_
  exact List.all_eq_true.1 hall e (TextMap.mem_of_mem_ofList he)

end Layout

end SignOn
