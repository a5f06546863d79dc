import Mathlib.Data.List.Basic
import Offload.Text.Utf8

/-!
# Octets that are text

Reading octets gives a text back from the octets that encode it, and from no other octets: the
bounds on the octet behind the first one of a character leave exactly one way to write each
character. So octets are text in one way or not at all.
-/

namespace Offload.Utf8

/-- The octets that encode a text. -/
def encode (text : String) : List UInt8 := text.toList.flatMap String.utf8EncodeChar

variable {octets continuation : List UInt8} {characters : List Char}
  {taken value owed low high final : Nat}

/-! ## Inside a character -/

/-- Octets that take the reader from inside a character to its end, and the number it then has read.
Each gives six bits, and only the first has bounds of its own. -/
inductive Completes : Nat → Nat → Nat → Nat → List UInt8 → Nat → Prop where
  | last {value low high : Nat} {octet : UInt8} (hlow : low ≤ octet.toNat)
      (hhigh : octet.toNat ≤ high) :
      Completes value 1 low high [octet] (64 * value + octet.toNat % 64)
  | more {value owed low high final : Nat} {octet : UInt8} {rest : List UInt8}
      (hlow : low ≤ octet.toNat) (hhigh : octet.toNat ≤ high)
      (hrest : Completes (64 * value + octet.toNat % 64) (owed + 1) 0x80 0xbf rest final) :
      Completes value (owed + 2) low high (octet :: rest) final

/-- The reader comes out of a character with characters only if octets complete it. -/
theorem chunksFrom_inside_iff :
    chunksFrom (.inside taken value (owed + 1) low high) octets = characters.map .character ↔
      ∃ continuation rest final others, octets = continuation ++ rest ∧
        Completes value (owed + 1) low high continuation final ∧
        characters = Char.ofNat final :: others ∧
        chunksFrom .between rest = others.map .character := by
  induction octets generalizing taken value owed low high with
  | nil =>
    constructor
    · intro hchunks
      cases characters <;> simp [chunksFrom] at hchunks
    · rintro ⟨continuation, rest, final, others, happend, hcompletes, -⟩
      obtain ⟨rfl, -⟩ := List.append_eq_nil_iff.1 happend.symm
      cases hcompletes
  | cons octet octets ih =>
    by_cases hbounds : low ≤ octet.toNat ∧ octet.toNat ≤ high
    · cases owed with
      | zero =>
        have hchunks : chunksFrom (.inside taken value 1 low high) (octet :: octets) =
            .character (Char.ofNat (64 * value + octet.toNat % 64)) ::
              chunksFrom .between octets := by
          simp [chunksFrom, step, hbounds]
        rw [hchunks]
        constructor
        · intro hmap
          obtain ⟨character, others, rfl, hfirst, hothers⟩ := List.map_eq_cons_iff.1 hmap.symm
          obtain rfl := Chunk.character.inj hfirst
          exact ⟨[octet], octets, _, others, rfl, .last hbounds.1 hbounds.2, rfl, hothers.symm⟩
        · rintro ⟨continuation, rest, final, others, happend, hcompletes, rfl, hothers⟩
          cases hcompletes with
          | last =>
            obtain ⟨rfl, rfl⟩ := List.cons.inj happend
            rw [List.map_cons, ← hothers]
      | succ owed =>
        have hchunks : chunksFrom (.inside taken value (owed + 2) low high) (octet :: octets) =
            chunksFrom (.inside (taken + 1) (64 * value + octet.toNat % 64) (owed + 1) 0x80 0xbf)
              octets := by
          simp [chunksFrom, step, hbounds]
        rw [hchunks, ih]
        constructor
        · rintro ⟨continuation, rest, final, others, rfl, hcompletes, hcharacters, hothers⟩
          exact ⟨octet :: continuation, rest, final, others, rfl,
            .more hbounds.1 hbounds.2 hcompletes, hcharacters, hothers⟩
        · rintro ⟨continuation, rest, final, others, happend, hcompletes, hcharacters, hothers⟩
          cases hcompletes with
          | more _ _ hrest =>
            obtain ⟨rfl, rfl⟩ := List.cons.inj happend
            exact ⟨_, rest, final, others, rfl, hrest, hcharacters, hothers⟩
    · constructor
      · intro hchunks
        cases characters <;> simp [chunksFrom, step, hbounds] at hchunks
      · rintro ⟨continuation, rest, final, others, happend, hcompletes, -⟩
        cases hcompletes with
        | last hlow hhigh =>
          obtain ⟨rfl, -⟩ := List.cons.inj happend
          exact absurd ⟨hlow, hhigh⟩ hbounds
        | more hlow hhigh =>
          obtain ⟨rfl, -⟩ := List.cons.inj happend
          exact absurd ⟨hlow, hhigh⟩ hbounds

theorem Completes.of_eq {octet : UInt8} (hlow : low ≤ octet.toNat) (hhigh : octet.toNat ≤ high)
    (hfinal : 64 * value + octet.toNat % 64 = final) :
    Completes value 1 low high [octet] final := hfinal ▸ .last hlow hhigh

/-! ## First octets -/

/-- A first octet says how many others there are. The bounds of the next keep characters from being
written with more octets than they need, and surrogates and numbers past the last from being
written at all. -/
theorem lead?_eq_some_iff {octet : Nat} :
    lead? octet = some (value, owed, low, high) ↔
      (0xc2 ≤ octet ∧ octet ≤ 0xdf ∧ value = octet - 0xc0 ∧ owed = 1 ∧ low = 0x80 ∧ high = 0xbf) ∨
      (0xe0 ≤ octet ∧ octet ≤ 0xef ∧ value = octet - 0xe0 ∧ owed = 2 ∧
        low = (if octet = 0xe0 then 0xa0 else 0x80) ∧
        high = (if octet = 0xed then 0x9f else 0xbf)) ∨
      (0xf0 ≤ octet ∧ octet ≤ 0xf4 ∧ value = octet - 0xf0 ∧ owed = 3 ∧
        low = (if octet = 0xf0 then 0x90 else 0x80) ∧
        high = (if octet = 0xf4 then 0x8f else 0xbf)) := by
  unfold lead?
  split_ifs <;> grind

/-! ## Characters and their octets -/

theorem toNat_ofNat_of_lt {number : Nat} (hlt : number < 256) :
    (UInt8.ofNat number).toNat = number := by
  rw [UInt8.toNat_ofNat', Nat.mod_eq_of_lt hlt]

/-- The octets of a character past the first 128 are a first octet and others that complete it. -/
theorem exists_completes {character : Char} (hwide : 0x80 ≤ character.toNat) :
    ∃ octet continuation value owed low high,
      String.utf8EncodeChar character = octet :: continuation ∧
        lead? octet.toNat = some (value, owed + 1, low, high) ∧
        Completes value (owed + 1) low high continuation character.toNat := by
  have hvalid : character.toNat < 0xd800 ∨ 0xdfff < character.toNat ∧ character.toNat < 0x110000 :=
    character.valid
  have htoNat : character.val.toNat = character.toNat := rfl
  unfold String.utf8EncodeChar
  rw [htoNat]
  generalize character.toNat = number at hwide hvalid
  have hsix (part : Nat) : (UInt8.ofNat (part % 64 + 128)).toNat = part % 64 + 128 :=
    toNat_ofNat_of_lt (by omega)
  simp only
  rw [if_neg (by omega)]
  split
  · have hfirst : (UInt8.ofNat (number / 64 % 32 + 192)).toNat = number / 64 % 32 + 192 :=
      toNat_ofNat_of_lt (by omega)
    refine ⟨_, _, number / 64, 0, 0x80, 0xbf, rfl, ?_, ?_⟩
    · rw [hfirst, lead?_eq_some_iff]
      exact .inl ⟨by omega, by omega, by omega, rfl, rfl, rfl⟩
    · exact .of_eq (by rw [hsix]; omega) (by rw [hsix]; omega) (by rw [hsix]; omega)
  split
  · have hfirst : (UInt8.ofNat (number / 4096 % 16 + 224)).toNat = number / 4096 % 16 + 224 :=
      toNat_ofNat_of_lt (by omega)
    refine ⟨_, _, number / 4096, 1, if number / 4096 % 16 + 224 = 0xe0 then 0xa0 else 0x80,
      if number / 4096 % 16 + 224 = 0xed then 0x9f else 0xbf, rfl, ?_, ?_⟩
    · rw [hfirst, lead?_eq_some_iff]
      exact .inr (.inl ⟨by omega, by omega, by omega, rfl, rfl, rfl⟩)
    · refine .more (by rw [hsix]; split <;> omega) (by rw [hsix]; split <;> omega) ?_
      exact .of_eq (by rw [hsix]; omega) (by rw [hsix]; omega) (by rw [hsix, hsix]; omega)
  · have hfirst : (UInt8.ofNat (number / 262144 % 8 + 240)).toNat = number / 262144 % 8 + 240 :=
      toNat_ofNat_of_lt (by omega)
    refine ⟨_, _, number / 262144, 2, if number / 262144 % 8 + 240 = 0xf0 then 0x90 else 0x80,
      if number / 262144 % 8 + 240 = 0xf4 then 0x8f else 0xbf, rfl, ?_, ?_⟩
    · rw [hfirst, lead?_eq_some_iff]
      exact .inr (.inr ⟨by omega, by omega, by omega, rfl, rfl, rfl⟩)
    · refine .more (by rw [hsix]; split <;> omega) (by rw [hsix]; split <;> omega) ?_
      refine .more (by rw [hsix]; omega) (by rw [hsix]; omega) ?_
      exact .of_eq (by rw [hsix]; omega) (by rw [hsix]; omega) (by rw [hsix, hsix, hsix]; omega)

theorem toNat_ofNat {number : Nat} (hvalid : number.isValidChar) :
    (Char.ofNat number).toNat = number := by
  rw [Char.ofNat, dif_pos hvalid]
  rfl

theorem ofNat_of_eq {number : Nat} {octet : UInt8} (hnumber : number = octet.toNat) :
    UInt8.ofNat number = octet := by
  rw [hnumber, UInt8.ofNat_toNat]

/-- A first octet and others that complete it are the octets of a character. -/
theorem utf8EncodeChar_of_completes {octet : UInt8}
    (hlead : lead? octet.toNat = some (value, owed, low, high))
    (hcompletes : Completes value owed low high continuation final) :
    String.utf8EncodeChar (Char.ofNat final) = octet :: continuation := by
  have htoNat (hvalid : final < 0xd800 ∨ 0xdfff < final ∧ final < 0x110000) :
      (Char.ofNat final).val.toNat = final := toNat_ofNat hvalid
  unfold String.utf8EncodeChar
  rcases lead?_eq_some_iff.1 hlead with ⟨hfirst, hlast, hvalue, howed, hlow, hhigh⟩ |
    ⟨hfirst, hlast, hvalue, howed, hlow, hhigh⟩ | ⟨hfirst, hlast, hvalue, howed, hlow, hhigh⟩ <;>
    subst howed
  · cases hcompletes with
    | last hsecond hsecond' =>
      rw [htoNat (by omega)]
      simp only
      rw [if_neg (by omega), if_pos (by omega)]
      simp only [List.cons.injEq, and_true]
      exact ⟨ofNat_of_eq (by omega), ofNat_of_eq (by omega)⟩
  · cases hcompletes with
    | more hsecond hsecond' hrest =>
      cases hrest with
      | last hthird hthird' =>
        split at hlow <;> split at hhigh <;>
        · rw [htoNat (by omega)]
          simp only
          rw [if_neg (by omega), if_neg (by omega), if_pos (by omega)]
          simp only [List.cons.injEq, and_true]
          exact ⟨ofNat_of_eq (by omega), ofNat_of_eq (by omega), ofNat_of_eq (by omega)⟩
  · cases hcompletes with
    | more hsecond hsecond' hrest =>
      cases hrest with
      | more hthird hthird' hrest =>
        cases hrest with
        | last hfourth hfourth' =>
          split at hlow <;> split at hhigh <;>
          · rw [htoNat (by omega)]
            simp only
            rw [if_neg (by omega), if_neg (by omega), if_neg (by omega)]
            simp only [List.cons.injEq, and_true]
            exact ⟨ofNat_of_eq (by omega), ofNat_of_eq (by omega), ofNat_of_eq (by omega),
              ofNat_of_eq (by omega)⟩

/-! ## Texts and their octets -/

theorem chunksFrom_lead {octet : UInt8} (hlead : lead? octet.toNat = some (value, owed, low, high))
    (octets : List UInt8) :
    chunksFrom .between (octet :: octets) = chunksFrom (.inside 1 value owed low high) octets := by
  have hwide : ¬ octet.toNat < 0x80 := by
    rcases lead?_eq_some_iff.1 hlead with h | h | h <;> omega
  simp [chunksFrom, step, start, hwide, hlead]

theorem chunksFrom_narrow {octet : UInt8} (hnarrow : octet.toNat < 0x80) (octets : List UInt8) :
    chunksFrom .between (octet :: octets) =
      .character (Char.ofNat octet.toNat) :: chunksFrom .between octets := by
  simp [chunksFrom, step, start, hnarrow]

theorem utf8EncodeChar_narrow {character : Char} (hnarrow : character.toNat < 0x80) :
    String.utf8EncodeChar character = [UInt8.ofNat character.toNat] :=
  if_pos (Nat.le_of_lt_succ hnarrow)

theorem chunksFrom_encode (characters : List Char) :
    chunksFrom .between (characters.flatMap String.utf8EncodeChar) = characters.map .character := by
  induction characters with
  | nil => rfl
  | cons character others ih =>
    rw [List.flatMap_cons]
    by_cases hnarrow : character.toNat < 0x80
    · have hoctet : (UInt8.ofNat character.toNat).toNat = character.toNat :=
        toNat_ofNat_of_lt (by omega)
      rw [utf8EncodeChar_narrow hnarrow, List.singleton_append,
        chunksFrom_narrow (by rwa [hoctet]), hoctet, Char.ofNat_toNat, ih]
      rfl
    · obtain ⟨octet, continuation, value, owed, low, high, hencode, hlead, hcompletes⟩ :=
        exists_completes (Nat.not_lt.1 hnarrow)
      rw [hencode, List.cons_append, chunksFrom_lead hlead, chunksFrom_inside_iff]
      exact ⟨continuation, _, _, others, rfl, hcompletes, by rw [Char.ofNat_toNat], ih⟩

theorem eq_encode_of_chunksFrom :
    ∀ octets : List UInt8, ∀ {characters : List Char},
      chunksFrom .between octets = characters.map .character →
        octets = characters.flatMap String.utf8EncodeChar
  | [], characters, hchunks => by
    obtain rfl : characters = [] := by simpa [chunksFrom] using hchunks.symm
    rfl
  | octet :: octets, characters, hchunks => by
    by_cases hnarrow : octet.toNat < 0x80
    · rw [chunksFrom_narrow hnarrow] at hchunks
      obtain ⟨character, others, rfl, hfirst, hothers⟩ := List.map_eq_cons_iff.1 hchunks.symm
      obtain rfl := Chunk.character.inj hfirst
      have hoctet : (Char.ofNat octet.toNat).toNat = octet.toNat := toNat_ofNat (.inl (by omega))
      rw [eq_encode_of_chunksFrom octets hothers.symm, List.flatMap_cons,
        utf8EncodeChar_narrow (by rwa [hoctet]), hoctet, UInt8.ofNat_toNat]
      rfl
    · cases hlead : lead? octet.toNat with
      | none => cases characters <;> simp [chunksFrom, step, start, hnarrow, hlead] at hchunks
      | some first =>
        obtain ⟨value, owed, low, high⟩ := first
        rw [chunksFrom_lead hlead] at hchunks
        obtain ⟨less, rfl⟩ : ∃ less, owed = less + 1 := by
          rcases lead?_eq_some_iff.1 hlead with h | h | h
          · exact ⟨0, h.2.2.2.1⟩
          · exact ⟨1, h.2.2.2.1⟩
          · exact ⟨2, h.2.2.2.1⟩
        obtain ⟨continuation, rest, final, others, hoctets, hcompletes, rfl, hothers⟩ :=
          chunksFrom_inside_iff.1 hchunks
        rw [List.flatMap_cons, utf8EncodeChar_of_completes hlead hcompletes,
          ← eq_encode_of_chunksFrom rest hothers, hoctets]
        rfl
termination_by octets => octets.length
decreasing_by
  · exact Nat.lt_succ_self _
  · simp only [hoctets, List.length_cons, List.length_append]
    omega

/-- Chunks are joined to characters if they are these characters and nothing else. -/
theorem joinFrom_eq_ok_iff {chunks : List Chunk} {index : Nat} :
    joinFrom index chunks = .ok characters ↔ chunks = characters.map .character := by
  induction chunks generalizing index characters with
  | nil => cases characters <;> simp [joinFrom]
  | cons chunk chunks ih =>
    cases chunk with
    | character character =>
      constructor
      · intro hjoin
        obtain ⟨others, hrest, rfl⟩ : ∃ others,
            joinFrom (index + character.utf8Size) chunks = .ok others ∧
              character :: others = characters := by
          rw [joinFrom] at hjoin
          cases hrest : joinFrom (index + character.utf8Size) chunks with
          | error defect => simp [hrest, Except.map] at hjoin
          | ok others => exact ⟨others, rfl, by simpa [hrest, Except.map] using hjoin⟩
        rw [ih.1 hrest, List.map_cons]
      · intro hmap
        obtain ⟨first, others, rfl, hfirst, hothers⟩ := List.map_eq_cons_iff.1 hmap.symm
        obtain rfl := Chunk.character.inj hfirst
        rw [joinFrom, ih.2 hothers.symm]
        rfl
    | malformed | truncated => cases characters <;> simp [joinFrom]

/-- Octets are text if they encode it. -/
theorem decode_eq_ok_iff {text : String} : decode octets = .ok text ↔ octets = encode text := by
  have hchunks : chunks octets = text.toList.map .character ↔ octets = encode text :=
    ⟨eq_encode_of_chunksFrom octets, fun hoctets ↦ hoctets ▸ chunksFrom_encode text.toList⟩
  have hjoin : joinFrom 0 (chunks octets) = .ok text.toList ↔
      chunks octets = text.toList.map .character := joinFrom_eq_ok_iff
  rw [← hchunks, ← hjoin, decode]
  cases joinFrom 0 (chunks octets) with
  | error defect => simp [Except.map]
  | ok characters =>
    simp only [Except.map, Except.ok.injEq]
    exact ⟨fun htext ↦ by rw [← htext, String.toList_ofList],
      fun hlist ↦ by rw [hlist, String.ofList_toList]⟩

end Offload.Utf8
