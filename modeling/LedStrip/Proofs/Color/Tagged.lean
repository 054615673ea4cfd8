import LedStrip.Color
import LedStrip.Proofs.Entries
import LedStrip.Proofs.Number.Lawful

/-!
# Tagged colors

A color is read under either of two tags and written under one.  `Reads` says what a value is read
as, without the order in which it is looked at, and `ofJson_eq_ok_iff` that this is all that
`TaggedColor.ofJson` does.  What is written is read as the color it was written from
(`ofJson_toJson`), so reading and writing a color once makes it one that stays.
-/

namespace LedStrip

/-! ### Bytes -/

namespace Scalar

variable {R : Type} [Scalar R] [LawfulScalar R] (b : UInt8)

theorem toRat?_ofInt_byte : toRat? (ofInt (b.toNat : Int) : R) = some (b.toNat : Rat) :=
  countsTo_of_le (n := 255) (by norm_num) _ (by have := b.toNat_lt; omega)

theorem toRat?_round_byte : toRat? (round (ofInt (b.toNat : Int) : R)) = some (b.toNat : Rat) :=
  toRat?_mapExact (toRat?_ofInt_byte b) (by
    rw [show roundHalfAway (b.toNat : Rat) = b.toNat from roundHalfAway_ofInt _]
    exact toRat?_ofInt_byte b)

theorem toByte_round_byte : toByte (round (ofInt (b.toNat : Int) : R)) = b := by
  have hb := b.toNat_lt
  have hwhole : truncate (b.toNat : Rat) = b.toNat := truncate_ofInt _
  rw [toByte, toNatIn, toIntIn, toRat?_round_byte]
  simp only [hwhole]
  rw [show (max 0 (min ((255 : Nat) : Int) b.toNat)).toNat = b.toNat by omega]
  exact UInt8.ofNat_toNat

end Scalar

/-! ### Documents -/

/-- A value that a document can hold: its integers have 64 bits, and its floats are finite. -/
inductive Json.IsDocument {R : Type} [Scalar R] : Json R → Prop
  | null : IsDocument .null
  | bool (b : Bool) : IsDocument (.bool b)
  | int {n : Int} : -2 ^ 63 ≤ n → n < 2 ^ 64 → IsDocument (.int n)
  | float {x : R} : Scalar.isFinite x = true → IsDocument (.float x)
  | str (s : String) : IsDocument (.str s)
  | arr {items : List (Json R)} : (∀ v ∈ items, IsDocument v) → IsDocument (.arr items)
  | obj {members : List (String × Json R)} :
    (∀ e ∈ members, IsDocument e.2) → IsDocument (.obj members)

theorem Json.IsDocument.isFinite {R : Type} [Scalar R] [LawfulScalar R] {v : Json R}
    (h : v.IsDocument) : v.IsFinite := by
  cases h with
  | int hlo hhi => exact isFinite_int (abs_le.mpr ⟨by omega, by omega⟩)
  | float hx =>
    rintro x ⟨⟩
    exact hx
  | _ => exact nofun

namespace TaggedColor

variable {R : Type}

/-! ### Reading -/

/-- The tag stands under `mode`, or under `kind` where there is no `mode`. -/
def IsTagged (members : Entries (Json R)) (tag : String) : Prop :=
  Entries.get? "mode" members = some (.str tag) ∨
    Entries.get? "mode" members = none ∧ Entries.get? "kind" members = some (.str tag)

theorem tag?_eq_some_iff {members : Entries (Json R)} {tag : String} :
    tag? members = some tag ↔ IsTagged members tag := by
  have hstr : ∀ v : Json R, v.asString? = some tag ↔ v = .str tag := by
    intro v
    cases v <;> simp [Json.asString?]
  unfold tag? IsTagged
  cases hmode : Entries.get? "mode" members with
  | none => simp [Option.bind_eq_some_iff, hstr]
  | some w => simp [hstr]

variable [Scalar R]

/-- A member that is a number. -/
def IsNumber (members : Entries (Json R)) (field : String) (x : R) : Prop :=
  ∃ v, Entries.get? field members = some v ∧ v.asNumber? = some x

/-- A member that is a number from 0 to 255. -/
def IsByte (members : Entries (Json R)) (field : String) (x : R) : Prop :=
  IsNumber members field x ∧ Scalar.ofNat 0 ≤ x ∧ x ≤ Scalar.ofNat 255

/-- A number as a byte. -/
def nearestByte (x : R) : UInt8 := Scalar.toByte (Scalar.round x)

/-- The color that a value stands for. -/
inductive Reads : Json R → TaggedColor R → Prop
  | rgb {members : Entries (Json R)} {r g b : R} : IsTagged members "rgb" →
      IsByte members "r" r → IsByte members "g" g → IsByte members "b" b →
      Reads (.obj members) (.rgb (nearestByte r) (nearestByte g) (nearestByte b))
  | hsv {members : Entries (Json R)} {h s v : R} : IsTagged members "hsv" →
      IsNumber members "h" h → IsNumber members "s" s → IsNumber members "v" v →
      Reads (.obj members) (.hsv h s v)

section Channels

variable {members : Entries (Json R)} {mode field : String} {x : R} {b : UInt8}

theorem channel_eq_ok_iff : channel mode members field = .ok x ↔ IsNumber members field x := by
  rw [channel, IsNumber, ← Option.bind_eq_some_iff]
  cases (Entries.get? field members).bind Json.asNumber? <;> simp

theorem byteChannel_eq_ok_iff :
    byteChannel members field = .ok b ↔ ∃ x, IsByte members field x ∧ nearestByte x = b := by
  unfold byteChannel
  constructor
  · intro h
    obtain ⟨x, hx, h⟩ := Except.bind_eq_ok h
    split at h
    · next hrange =>
      cases h
      obtain ⟨hlo, hhi⟩ := Bool.and_eq_true_iff.mp hrange
      exact ⟨x, ⟨channel_eq_ok_iff.mp hx, of_decide_eq_true hlo, of_decide_eq_true hhi⟩, rfl⟩
    · cases h
  · rintro ⟨x, ⟨hx, hlo, hhi⟩, rfl⟩
    have hok : channel "rgb" members field = .ok x := channel_eq_ok_iff.mpr hx
    simp only [hok, hlo, hhi, decide_true, Bool.and_true, if_true, bind, Except.bind]
    rfl

end Channels

/-- **Reading** comes to what a value stands for. -/
theorem ofJson_eq_ok_iff {v : Json R} {c : TaggedColor R} : ofJson v = .ok c ↔ Reads v c := by
  constructor
  · intro h
    cases v with
    | obj members =>
      unfold ofJson at h
      dsimp only at h
      split at h
      · cases h
      · next htag =>
        obtain ⟨r, hr, h⟩ := Except.bind_eq_ok h
        obtain ⟨g, hg, h⟩ := Except.bind_eq_ok h
        obtain ⟨b, hb, h⟩ := Except.bind_eq_ok h
        cases h
        obtain ⟨x, hx, rfl⟩ := byteChannel_eq_ok_iff.mp hr
        obtain ⟨y, hy, rfl⟩ := byteChannel_eq_ok_iff.mp hg
        obtain ⟨z, hz, rfl⟩ := byteChannel_eq_ok_iff.mp hb
        exact .rgb (tag?_eq_some_iff.mp htag) hx hy hz
      · next htag =>
        obtain ⟨h', hh, h⟩ := Except.bind_eq_ok h
        obtain ⟨s, hs, h⟩ := Except.bind_eq_ok h
        obtain ⟨v, hv, h⟩ := Except.bind_eq_ok h
        cases h
        exact .hsv (tag?_eq_some_iff.mp htag) (channel_eq_ok_iff.mp hh) (channel_eq_ok_iff.mp hs)
          (channel_eq_ok_iff.mp hv)
      · cases h
    | _ => cases h
  · intro h
    cases h with
    | rgb htag hr hg hb =>
      simp only [ofJson, tag?_eq_some_iff.mpr htag, byteChannel_eq_ok_iff.mpr ⟨_, hr, rfl⟩,
        byteChannel_eq_ok_iff.mpr ⟨_, hg, rfl⟩, byteChannel_eq_ok_iff.mpr ⟨_, hb, rfl⟩]
      rfl
    | hsv htag hh hs hv =>
      simp only [ofJson, tag?_eq_some_iff.mpr htag, channel_eq_ok_iff.mpr hh,
        channel_eq_ok_iff.mpr hs, channel_eq_ok_iff.mpr hv]
      rfl

/-- A value stands for some color exactly if it has a tag and the numbers that go with it. -/
theorem exists_reads_iff {v : Json R} :
    (∃ c, Reads v c) ↔ ∃ members, v = .obj members ∧
      (IsTagged members "rgb" ∧ (∀ field ∈ ["r", "g", "b"], ∃ x, IsByte members field x) ∨
        IsTagged members "hsv" ∧ ∀ field ∈ ["h", "s", "v"], ∃ x, IsNumber members field x) := by
  simp only [List.forall_mem_cons, List.not_mem_nil, false_imp_iff, implies_true, and_true]
  constructor
  · rintro ⟨c, h⟩
    cases h with
    | rgb htag hr hg hb => exact ⟨_, rfl, .inl ⟨htag, ⟨_, hr⟩, ⟨_, hg⟩, _, hb⟩⟩
    | hsv htag hh hs hv => exact ⟨_, rfl, .inr ⟨htag, ⟨_, hh⟩, ⟨_, hs⟩, _, hv⟩⟩
  · rintro ⟨members, rfl, ⟨htag, ⟨r, hr⟩, ⟨g, hg⟩, b, hb⟩ | ⟨htag, ⟨h, hh⟩, ⟨s, hs⟩, v, hv⟩⟩
    · exact ⟨_, .rgb htag hr hg hb⟩
    · exact ⟨_, .hsv htag hh hs hv⟩

/-- The channels that go with a tag. -/
def fieldsOf : String → List String
  | "rgb" => ["r", "g", "b"]
  | "hsv" => ["h", "s", "v"]
  | _ => []

/-- Nothing is read but the tag and its channels. -/
theorem ofJson_congr {members members' : Entries (Json R)} (htag : tag? members' = tag? members)
    (hfields : ∀ tag, tag? members = some tag → ∀ field ∈ fieldsOf tag,
      Entries.get? field members' = Entries.get? field members) :
    ofJson (.obj members') = ofJson (.obj members) := by
  have hchannel {tag : String} (h : tag? members = some tag) (field : String)
      (hfield : field ∈ fieldsOf tag) (mode : String) :
      channel mode members' field = channel mode members field := by
    rw [channel, channel, hfields tag h field hfield]
  unfold ofJson
  dsimp only
  rw [htag]
  split
  · rfl
  · next h =>
    simp only [byteChannel, hchannel h "r" (by decide), hchannel h "g" (by decide),
      hchannel h "b" (by decide)]
  · next h =>
    simp only [hchannel h "h" (by decide), hchannel h "s" (by decide), hchannel h "v" (by decide)]
  · rfl

/-! ### Writing -/

/-- A color whose channels are finite. -/
def IsFinite : TaggedColor R → Prop
  | rgb .. => True
  | hsv h s v => Scalar.isFinite h = true ∧ Scalar.isFinite s = true ∧ Scalar.isFinite v = true

omit [Scalar R] in
def tag : TaggedColor R → String
  | rgb .. => "rgb"
  | hsv .. => "hsv"

omit [Scalar R] in
/-- The channels under their fields. -/
def channels : TaggedColor R → List (String × Json R)
  | rgb r g b => [("r", .ofNat r.toNat), ("g", .ofNat g.toNat), ("b", .ofNat b.toNat)]
  | hsv h s v => [("h", .float h), ("s", .float s), ("v", .float v)]

variable {c : TaggedColor R}

theorem toJson_eq (hc : c.IsFinite) : c.toJson = .mkObj (("mode", .str c.tag) :: c.channels) := by
  cases c with
  | rgb r g b => rfl
  | hsv h s v =>
    obtain ⟨hh, hs, hv⟩ := hc
    simp only [toJson, Json.ofScalar, hh, hs, hv, if_true]
    rfl

omit [Scalar R] in
theorem nodup_keys (c : TaggedColor R) :
    (Entries.keys (("mode", .str c.tag) :: c.channels)).Nodup := by
  cases c with
  | rgb r g b => exact (show ["mode", "r", "g", "b"].Nodup by decide)
  | hsv h s v => exact (show ["mode", "h", "s", "v"].Nodup by decide)

/-- What is written has the tag and the channels, and nothing else. -/
theorem exists_toJson_perm (hc : c.IsFinite) :
    ∃ members, c.toJson = .obj members ∧ members.Perm (("mode", .str c.tag) :: c.channels) :=
  ⟨_, toJson_eq hc, Entries.ofList_perm c.nodup_keys⟩

variable [LawfulScalar R]

theorem isByte_ofNat {members : Entries (Json R)} {field : String} {b : UInt8}
    (h : Entries.get? field members = some (.ofNat b.toNat)) :
    IsByte members field (Scalar.ofInt b.toNat : R) := by
  have hb := b.toNat_lt
  have htop : Scalar.toRat? (Scalar.ofNat 255 : R) = some ((255 : Nat) : Rat) :=
    Scalar.countsTo_of_le (n := 255) (by norm_num) 255 le_rfl
  refine ⟨⟨_, h, rfl⟩, ?_, ?_⟩
  · exact (LawfulScalar.le_iff Scalar.toRat?_zero (Scalar.toRat?_ofInt_byte b)).mpr
      (Nat.cast_nonneg _)
  · exact (LawfulScalar.le_iff (Scalar.toRat?_ofInt_byte b) htop).mpr (Nat.cast_le.mpr (by omega))

/-- Three integers from 0 to 255 are a color. -/
theorem ofJson_rgb {members : Entries (Json R)} {r g b : UInt8} (htag : tag? members = some "rgb")
    (hr : Entries.get? "r" members = some (.ofNat r.toNat))
    (hg : Entries.get? "g" members = some (.ofNat g.toNat))
    (hb : Entries.get? "b" members = some (.ofNat b.toNat)) :
    ofJson (.obj members) = .ok (.rgb r g b) := by
  have hbyte (b : UInt8) : nearestByte (Scalar.ofInt b.toNat : R) = b := Scalar.toByte_round_byte b
  have hreads := Reads.rgb (R := R) (tag?_eq_some_iff.mp htag) (isByte_ofNat hr) (isByte_ofNat hg)
    (isByte_ofNat hb)
  rw [hbyte, hbyte, hbyte] at hreads
  exact ofJson_eq_ok_iff.mpr hreads

/-- **What is written is read back.** -/
theorem ofJson_toJson (hc : c.IsFinite) : ofJson c.toJson = .ok c := by
  have hget := Entries.get?_ofList c.nodup_keys
  rw [toJson_eq hc, Json.mkObj]
  cases c with
  | rgb r g b =>
    exact ofJson_rgb (tag?_eq_some_iff.mpr (.inl (hget "mode"))) (hget "r") (hget "g") (hget "b")
  | hsv h s v =>
    exact ofJson_eq_ok_iff.mpr
      (.hsv (.inl (hget "mode")) ⟨_, hget "h", rfl⟩ ⟨_, hget "s", rfl⟩ ⟨_, hget "v", rfl⟩)

/-- A color in a document is finite. -/
theorem Reads.isFinite {v : Json R} (h : Reads v c) (hv : v.IsDocument) : c.IsFinite := by
  have hnumber {members : Entries (Json R)} (hmembers : (Json.obj members).IsDocument)
      {field : String} {x : R} (hx : IsNumber members field x) : Scalar.isFinite x = true := by
    obtain ⟨w, hw, hwx⟩ := hx
    cases hmembers with
    | obj hall => exact (hall _ (Entries.mem_of_get? hw)).isFinite x hwx
  cases h with
  | rgb htag hr hg hb => trivial
  | hsv htag hh hs hv' => exact ⟨hnumber hv hh, hnumber hv hs, hnumber hv hv'⟩

/-- **Colors in documents.**  A finite color is written as its tag and its channels, and read back as
itself.  A color of a document is finite; written again, it is read as the same color and shows the
same.  A value is read exactly if it is an object with a tag, under `mode` or where there is no
`mode` under `kind`, and with the numbers that go with the tag; the numbers become the channels,
and nothing else in the object matters. -/
theorem colors_round_trip (R : Type) [Scalar R] [LawfulScalar R] :
    (∀ c : TaggedColor R, c.IsFinite → ofJson c.toJson = .ok c ∧
      ∃ members, c.toJson = .obj members ∧ members.Perm (("mode", .str c.tag) :: c.channels)) ∧
    (∀ (v : Json R) c, v.IsDocument → ofJson v = .ok c →
      c.IsFinite ∧ ofJson c.toJson = .ok c ∧ rgbOfJson c.toJson = rgbOfJson v) ∧
    (∀ v : Json R, (∃ c, ofJson v = .ok c) ↔ ∃ members, v = .obj members ∧
      (IsTagged members "rgb" ∧ (∀ field ∈ ["r", "g", "b"], ∃ x, IsByte members field x) ∨
        IsTagged members "hsv" ∧ ∀ field ∈ ["h", "s", "v"], ∃ x, IsNumber members field x)) ∧
    (∀ (v : Json R) c, ofJson v = .ok c ↔ Reads v c) ∧
    ∀ members members' : Entries (Json R), tag? members' = tag? members →
      (∀ tag, tag? members = some tag → ∀ field ∈ fieldsOf tag,
        Entries.get? field members' = Entries.get? field members) →
      ofJson (.obj members') = ofJson (.obj members) := by
  refine ⟨fun c hc => ⟨ofJson_toJson hc, exists_toJson_perm hc⟩, fun v c hv hc => ?_, fun v => ?_,
    fun v c => ofJson_eq_ok_iff, fun members members' => ofJson_congr⟩
  · have hfinite := (ofJson_eq_ok_iff.mp hc).isFinite hv
    refine ⟨hfinite, ofJson_toJson hfinite, ?_⟩
    rw [rgbOfJson, rgbOfJson, ofJson_toJson hfinite, hc]
  · simp only [ofJson_eq_ok_iff]
    exact exists_reads_iff

/-- A color under `kind`, with a fraction in it and a note beside it, is written under `mode`. -/
theorem kind_becomes_mode :
    let v : Json Rat := .obj [("b", .float (5 / 2)), ("g", .int 0), ("kind", .str "rgb"),
      ("note", .null), ("r", .int 255)]
    let c : TaggedColor Rat := .rgb 255 0 3
    v.IsDocument ∧ ofJson v = .ok c ∧ ofJson c.toJson = .ok c ∧
      rgbOfJson c.toJson = rgbOfJson v ∧ ∃ members, c.toJson = .obj members ∧
        members.Perm [("mode", .str "rgb"), ("r", .int 255), ("g", .int 0), ("b", .int 3)] := by
  intro v c
  obtain ⟨hwritten, hread, -⟩ := colors_round_trip Rat
  have hv : v.IsDocument := by
    refine .obj fun e he => ?_
    simp only [List.mem_cons, List.not_mem_nil, or_false] at he
    rcases he with rfl | rfl | rfl | rfl | rfl
    · exact .float rfl
    · exact .int (by decide) (by decide)
    · exact .str _
    · exact .null
    · exact .int (by decide) (by decide)
  have hbytes : c = .rgb (nearestByte (255 : Rat)) (nearestByte (0 : Rat)) (nearestByte (5 / 2 : Rat)) := by
    show TaggedColor.rgb 255 0 3 = _
    congr <;> decide +kernel
  have hc : ofJson v = .ok c := by
    rw [hbytes]
    exact ofJson_eq_ok_iff.mpr (.rgb (.inr ⟨rfl, rfl⟩)
      ⟨⟨_, rfl, rfl⟩, by decide +kernel, by decide +kernel⟩
      ⟨⟨_, rfl, rfl⟩, by decide +kernel, by decide +kernel⟩
      ⟨⟨_, rfl, rfl⟩, by decide +kernel, by decide +kernel⟩)
  obtain ⟨hfinite, hback, hrgb⟩ := hread v c hv hc
  exact ⟨hv, hc, hback, hrgb, (hwritten c hfinite).2⟩

end TaggedColor
end LedStrip
