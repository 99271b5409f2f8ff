import Mathlib.Data.List.TakeWhile
import PrintProxy.IpAddress
import PrintProxy.Proofs.Text.Numeral

/-!
# Addresses and their texts

The text of an address is read as the address again.  Nothing in a part of an
address is a separator, so the parts are found where they were put.  Two colons
in a row stand only where zeros were left out, and as many zeros are put back,
because the number of groups is known.
-/

namespace PrintProxy

section Parts

variable {α β γ : Type} {read : β → Option γ} {write : α → β} {value : α → γ}
  {separator character : Char}

theorem mapM_map_eq_some {items : List α}
    (each : ∀ item ∈ items, read (write item) = some (value item)) :
    (items.map write).mapM read = some (items.map value) := by
  induction items with
  | nil => rfl
  | cons item items ih =>
      obtain ⟨first, others⟩ := List.forall_mem_cons.mp each
      simp [first, ih others]

theorem isSome_of_mapM {parts : List β} (found : (parts.mapM read).isSome) :
    ∀ part ∈ parts, (read part).isSome := by
  induction parts with
  | nil => simp
  | cons part parts ih =>
      rw [List.mapM_cons] at found
      cases first : read part with
      | none => simp [first] at found
      | some item =>
          cases others : parts.mapM read with
          | none => simp [first, others] at found
          | some items => simpa [first] using ih (by simp [others])

theorem mem_of_mem_intercalate {parts : List (List Char)}
    (member : character ∈ [separator].intercalate parts) :
    character = separator ∨ ∃ part ∈ parts, character ∈ part := by
  induction parts with
  | nil => simp at member
  | cons part parts ih =>
      cases parts with
      | nil =>
          rw [List.intercalate_singleton] at member
          exact .inr ⟨part, List.mem_cons_self, member⟩
      | cons next parts =>
          rw [List.intercalate_cons_cons, List.append_assoc] at member
          rcases List.mem_append.mp member with inFirst | behind
          · exact .inr ⟨part, List.mem_cons_self, inFirst⟩
          · rcases List.mem_append.mp behind with isSeparator | inOthers
            · exact .inl (List.mem_singleton.mp isSeparator)
            · rcases ih inOthers with same | ⟨other, isPart, inside⟩
              · exact .inl same
              · exact .inr ⟨other, List.mem_cons_of_mem _ isPart, inside⟩

/-- There is one separator less than there are parts. -/
theorem count_intercalate {parts : List (List Char)}
    (absent : ∀ part ∈ parts, separator ∉ part) :
    ([separator].intercalate parts).count separator = parts.length - 1 := by
  induction parts with
  | nil => rfl
  | cons part parts ih =>
      obtain ⟨notInFirst, others⟩ := List.forall_mem_cons.mp absent
      cases parts with
      | nil => simpa [List.count_eq_zero] using notInFirst
      | cons next parts =>
          rw [List.intercalate_cons_cons, List.count_append, List.count_append, ih others,
            List.count_eq_zero.mpr notInFirst, List.count_singleton_self]
          simp
          omega

end Parts

namespace Ipv4

theorem parseOctet?_decimal (octet : UInt8) :
    parseOctet? (Numeral.decimal octet.toNat).toList = some octet := by
  have each : ∀ number < 256,
      parseOctet? (Numeral.decimal number).toList = some (UInt8.ofNat number) := by
    decide +kernel
  rw [each octet.toNat octet.toNat_lt, UInt8.ofNat_toNat]

theorem toList_render (address : Ipv4) :
    address.render.toList = ['.'].intercalate
      ([address.first, address.second, address.third, address.fourth].map fun octet =>
        (Numeral.decimal octet.toNat).toList) := by
  rw [render, String.toList_intercalate, List.map_map]
  rfl

theorem parse?_render (address : Ipv4) : parse? address.render.toList = some address := by
  have noPoint : ∀ part ∈
      [address.first, address.second, address.third, address.fourth].map fun octet =>
        (Numeral.decimal octet.toNat).toList, '.' ∉ part := by
    intro part member point
    obtain ⟨octet, _, rfl⟩ := List.mem_map.mp member
    have digit := Numeral.isDigit_of_mem_decimal point
    cases digit
  rw [parse?, toList_render, List.splitOn_intercalate '.' noPoint (List.cons_ne_nil _ _),
    mapM_map_eq_some fun octet _ => parseOctet?_decimal octet]
  rfl

theorem isDigit_of_parseOctet? {digits : List Char} {character : Char}
    (isOctet : (parseOctet? digits).isSome) (member : character ∈ digits) : character.isDigit := by
  by_contra noDigit
  rw [parseOctet?, Numeral.readAtMost?_eq_none_of_mem member (by simpa using noDigit)] at isOctet
  split at isOctet <;> cases isOctet

/-- An address of version 4 is written in digits and points. -/
theorem mem_of_parse? {characters : List Char} {address : Ipv4} {character : Char}
    (read : parse? characters = some address) (member : character ∈ characters) :
    character.isDigit ∨ character = '.' := by
  have whole : ['.'].intercalate (characters.splitOn '.') = characters :=
    List.intercalate_splitOn '.'
  rw [parse?] at read
  cases found : (characters.splitOn '.').mapM parseOctet? with
  | none => simp [found] at read
  | some octets =>
      have areOctets := isSome_of_mapM (Option.isSome_iff_exists.mpr ⟨octets, found⟩)
      rw [← whole] at member
      rcases mem_of_mem_intercalate member with point | ⟨part, isPart, inside⟩
      · exact .inr point
      · exact .inl (isDigit_of_parseOctet? (areOctets part isPart) inside)

/-- No address of version 4 has a colon. -/
theorem parse?_eq_none_of_colon {characters : List Char} (colon : ':' ∈ characters) :
    parse? characters = none := by
  cases read : parse? characters with
  | none => rfl
  | some address => rcases mem_of_parse? read colon with digit | point <;> contradiction

/-- The octets of an address are those of its two groups. -/
theorem groups_ofGroups (high low : UInt16) : (ofGroups high low).groups = [high, low] := by
  have octets (number : UInt16) :
      UInt16.ofNat ((UInt8.ofNat (number.toNat / 256)).toNat * 256 +
        (UInt8.ofNat number.toNat).toNat) = number := by
    have small := number.toNat_lt
    rw [UInt8.toNat_ofNat', UInt8.toNat_ofNat', Nat.mod_eq_of_lt (by omega), Nat.div_add_mod',
      UInt16.ofNat_toNat]
  rw [groups, ofGroups, octets, octets]

end Ipv4

namespace IpAddress

def groupText (group : UInt16) : List Char := (Numeral.hex 1 group.toNat).toList

theorem groupText_eq (group : UInt16) :
    groupText group = Numeral.padZeros 1 (Nat.toDigits 16 group.toNat) := by
  rw [groupText, Numeral.hex, String.toList_ofList]

theorem length_groupText (group : UInt16) :
    0 < (groupText group).length ∧ (groupText group).length ≤ 4 := by
  have few := Numeral.length_toDigits_toNat_le group
  rw [groupText_eq, Numeral.padZeros, List.length_append, List.length_replicate]
  omega

theorem hexDigit?_of_mem {digit : Char} (isHex : digit ∈ "0123456789abcdef".toList) :
    hexDigit? digit = some (Numeral.hexDigitValue digit) := by
  have each : "0123456789abcdef".toList.all fun digit =>
      hexDigit? digit == some (Numeral.hexDigitValue digit) := rfl
  exact beq_iff_eq.mp (List.all_eq_true.mp each digit isHex)

theorem not_colon_groupText (group : UInt16) : ':' ∉ groupText group := by
  intro colon
  have isHex := Numeral.mem_hexDigits_of_mem_hex colon
  revert isHex
  decide

theorem parseGroup?_groupText (group : UInt16) : parseGroup? (groupText group) = some group := by
  obtain ⟨positive, few⟩ := length_groupText group
  have values : (groupText group).mapM hexDigit? =
      some ((groupText group).map Numeral.hexDigitValue) := by
    have each : ∀ digit ∈ groupText group,
        hexDigit? (id digit) = some (Numeral.hexDigitValue digit) :=
      fun digit member => hexDigit?_of_mem (Numeral.mem_hexDigits_of_mem_hex member)
    have found := mapM_map_eq_some each
    rwa [List.map_id] at found
  have value : ((groupText group).map Numeral.hexDigitValue).foldl
      (fun number digit => number * 16 + digit) 0 = group.toNat := by
    rw [List.foldl_map, ← Numeral.hexValue_toDigits group.toNat, ← Numeral.hexValue_padZeros 1,
      ← groupText_eq, Numeral.hexValue]
    simp only [Nat.mul_comm]
  have sized : ((groupText group).isEmpty || decide (4 < (groupText group).length)) = false := by
    simp [List.length_pos_iff.mp positive, few]
  rw [parseGroup?, sized, values]
  simp [value]

theorem toList_renderGroups (groups : List UInt16) :
    (renderGroups groups).toList = [':'].intercalate (groups.map groupText) := by
  rw [renderGroups, String.toList_intercalate, List.map_map]
  rfl

theorem toList_renderGroups_cons_cons (group next : UInt16) (groups : List UInt16) :
    (renderGroups (group :: next :: groups)).toList =
      groupText group ++ ':' :: (renderGroups (next :: groups)).toList := by
  rw [toList_renderGroups, toList_renderGroups, List.map_cons, List.map_cons,
    List.intercalate_cons_cons, List.append_assoc]
  rfl

theorem exists_cons_renderGroups (group : UInt16) (groups : List UInt16) :
    ∃ first others, (renderGroups (group :: groups)).toList = first :: others ∧ first ≠ ':' := by
  obtain ⟨behind, text⟩ : ∃ behind,
      (renderGroups (group :: groups)).toList = groupText group ++ behind := by
    cases groups with
    | nil => exact ⟨[], by simp [toList_renderGroups]⟩
    | cons next groups => exact ⟨_, toList_renderGroups_cons_cons group next groups⟩
  cases letters : groupText group with
  | nil => exact absurd letters (List.length_pos_iff.mp (length_groupText group).1)
  | cons first others =>
      rw [letters] at text
      refine ⟨first, others ++ behind, text, ?_⟩
      rintro rfl
      exact not_colon_groupText group (by simp [letters])

theorem parseGroups?_map_groupText (allowsV4 : Bool) (groups : List UInt16) :
    parseGroups? allowsV4 (groups.map groupText) = some groups := by
  induction groups with
  | nil => rfl
  | cons group groups ih =>
      cases groups with
      | nil => simp [parseGroups?, parseGroup?_groupText]
      | cons next groups =>
          rw [List.map_cons] at ih
          simp [parseGroups?, parseGroup?_groupText, ih]

theorem parseRun?_renderGroups (allowsV4 : Bool) (groups : List UInt16) :
    parseRun? allowsV4 (renderGroups groups).toList = some groups := by
  cases groups with
  | nil => rfl
  | cons group groups =>
      have noColon : ∀ part ∈ (group :: groups).map groupText, ':' ∉ part := by
        intro part member
        obtain ⟨group, _, rfl⟩ := List.mem_map.mp member
        exact not_colon_groupText group
      have notEmpty : (renderGroups (group :: groups)).toList.isEmpty = false := by
        obtain ⟨first, others, text, _⟩ := exists_cons_renderGroups group groups
        rw [text]
        rfl
      rw [parseRun?, notEmpty, if_neg Bool.false_ne_true, toList_renderGroups,
        List.splitOn_intercalate ':' noColon (List.cons_ne_nil _ _), parseGroups?_map_groupText]

variable {readBefore characters rest : List Char}

theorem splitAtGap?_of_not_colon (noColon : ':' ∉ characters) :
    splitAtGap? readBefore (characters ++ rest) =
      splitAtGap? (characters.reverse ++ readBefore) rest := by
  induction characters generalizing readBefore with
  | nil => rfl
  | cons character characters ih =>
      rw [List.mem_cons, not_or] at noColon
      obtain ⟨isOther, others⟩ := noColon
      rw [List.cons_append, splitAtGap?, ih others]
      · simp
      · exact fun _ same => absurd same.symm isOther

theorem splitAtGap?_colon {first : Char} (isOther : first ≠ ':') :
    splitAtGap? readBefore (':' :: first :: rest) =
      splitAtGap? (':' :: readBefore) (first :: rest) := by
  rw [splitAtGap?]
  intro _ _ same
  cases same
  exact isOther rfl

/-- There is no gap among groups. -/
theorem splitAtGap?_renderGroups (groups : List UInt16) :
    splitAtGap? readBefore ((renderGroups groups).toList ++ rest) =
      splitAtGap? ((renderGroups groups).toList.reverse ++ readBefore) rest := by
  induction groups generalizing readBefore with
  | nil => rfl
  | cons group groups ih =>
      cases groups with
      | nil =>
          rw [toList_renderGroups, List.map_singleton, List.intercalate_singleton]
          exact splitAtGap?_of_not_colon (not_colon_groupText group)
      | cons next groups =>
          obtain ⟨first, others, text, isOther⟩ := exists_cons_renderGroups next groups
          rw [toList_renderGroups_cons_cons, List.append_assoc, List.cons_append,
            splitAtGap?_of_not_colon (not_colon_groupText group)]
          rw [text] at ih ⊢
          rw [List.cons_append, splitAtGap?_colon isOther]
          exact ih.trans (by simp)

theorem isRun_foldl {groups : List UInt16} {best : Nat × Nat}
    (isRun : best.2 ≤ zeroRun (groups.drop best.1)) (starts : List Nat) :
    let longest := starts.foldl
      (fun best start =>
        let length := zeroRun (groups.drop start)
        if best.2 < length then (start, length) else best) best
    longest.2 ≤ zeroRun (groups.drop longest.1) := by
  induction starts generalizing best with
  | nil => exact isRun
  | cons start starts ih =>
      apply ih
      dsimp only
      split
      · exact Nat.le_refl _
      · exact isRun

/-- As many zeros as are left out stand where they are left out. -/
theorem isRun_longestZeroRun (groups : List UInt16) :
    (longestZeroRun groups).2 ≤ zeroRun (groups.drop (longestZeroRun groups).1) :=
  isRun_foldl (Nat.zero_le _) _

theorem take_of_isRun {groups : List UInt16} {length : Nat} (isRun : length ≤ zeroRun groups) :
    groups.take length = List.replicate length 0 := by
  have isPrefix := List.takeWhile_prefix (l := groups) (· == 0)
  have inRun : groups.take length <+: groups.takeWhile (· == 0) :=
    List.prefix_of_prefix_length_le (List.take_prefix length groups) isPrefix
      (Nat.le_trans (List.length_take_le _ _) isRun)
  rw [List.eq_replicate_iff]
  constructor
  · have inGroups := isPrefix.length_le
    rw [List.length_take]
    rw [zeroRun] at isRun
    omega
  · intro group member
    have isZero := List.mem_takeWhile_imp (inRun.subset member)
    exact beq_iff_eq.mp isZero

theorem eq_of_isRun {groups : List UInt16} {start length : Nat}
    (isRun : length ≤ zeroRun (groups.drop start)) :
    groups.take start ++ List.replicate length 0 ++ groups.drop (start + length) = groups := by
  rw [← take_of_isRun isRun, ← List.drop_drop, List.append_assoc, List.take_append_drop,
    List.take_append_drop]

theorem parseV6?_of_gap {text frontText backText : List Char} {front back : List UInt16}
    (gap : splitAtGap? [] text = some (frontText, backText))
    (frontRead : parseRun? false frontText = some front)
    (backRead : parseRun? true backText = some back) (few : front.length + back.length ≤ 7) :
    parseV6? text =
      ofGroups? (front ++ List.replicate (8 - front.length - back.length) 0 ++ back) := by
  simp only [parseV6?, gap, frontRead, backRead]
  change (if 7 < front.length + back.length then none else _) = _
  rw [if_neg (Nat.not_lt_of_le few)]

theorem not_colon_render_v4 (address : Ipv4) : ':' ∉ address.render.toList := by
  intro colon
  have isNone := Ipv4.parse?_eq_none_of_colon colon
  rw [Ipv4.parse?_render] at isNone
  cases isNone

/-- An address of version 4 has too many characters for a group. -/
theorem parseGroup?_render_v4 (address : Ipv4) : parseGroup? address.render.toList = none := by
  have notEmpty (octet : UInt8) : 0 < (Numeral.decimal octet.toNat).toList.length := by
    rw [Numeral.decimal, String.toList_ofList]
    exact List.length_pos_iff.mpr Nat.toDigits_ne_nil
  have long : 4 < address.render.toList.length := by
    have first := notEmpty address.first
    have second := notEmpty address.second
    have third := notEmpty address.third
    have fourth := notEmpty address.fourth
    rw [Ipv4.toList_render]
    simp only [List.map_cons, List.map_nil, List.intercalate_cons_cons,
      List.intercalate_singleton, List.length_append, List.length_singleton]
    omega
  simp [parseGroup?, long]

/-- An address of version 4 takes the place of two groups behind others. -/
theorem parseRun?_mapped (address : Ipv4) :
    parseRun? true ("ffff:".toList ++ address.render.toList) =
      some (0xffff :: address.groups) := by
  have text : "ffff:".toList ++ address.render.toList =
      [':'].intercalate ["ffff".toList, address.render.toList] := by
    rw [List.intercalate_cons_cons, List.intercalate_singleton]
    rfl
  have noColon : ∀ part ∈ ["ffff".toList, address.render.toList], ':' ∉ part := by
    simp [not_colon_render_v4]
  have notEmpty : ("ffff:".toList ++ address.render.toList).isEmpty = false := rfl
  have group : parseGroup? ['f', 'f', 'f', 'f'] = some 0xffff := by decide
  rw [parseRun?, notEmpty, if_neg Bool.false_ne_true, text,
    List.splitOn_intercalate ':' noColon (List.cons_ne_nil _ _)]
  simp [parseGroups?, group, parseGroup?_render_v4, Ipv4.parse?_render]

theorem parseV6?_renderV6 {groups : List UInt16} (eight : groups.length = 8) :
    parseV6? (renderV6 groups).toList = ofGroups? groups := by
  unfold renderV6
  split
  · next high low =>
      have gap : splitAtGap? [] ("::ffff:" ++ (Ipv4.ofGroups high low).render).toList =
          some ([], "ffff:".toList ++ (Ipv4.ofGroups high low).render.toList) := by
        rw [String.toList_append]
        rfl
      have behind := parseRun?_mapped (Ipv4.ofGroups high low)
      rw [Ipv4.groups_ofGroups] at behind
      rw [parseV6?_of_gap gap rfl behind (by simp)]
      rfl
  · have isRun := isRun_longestZeroRun groups
    generalize longestZeroRun groups = run at isRun
    obtain ⟨start, length⟩ := run
    dsimp only at isRun ⊢
    split
    · have noGap : splitAtGap? [] (renderGroups groups).toList = none := by
        rw [← List.append_nil (renderGroups groups).toList, splitAtGap?_renderGroups, splitAtGap?]
      simp only [parseV6?, noGap, parseRun?_renderGroups]
      rfl
    · next several =>
        have gap : splitAtGap? [] (renderGroups (groups.take start) ++ "::" ++
            renderGroups (groups.drop (start + length))).toList =
            some ((renderGroups (groups.take start)).toList,
              (renderGroups (groups.drop (start + length))).toList) := by
          rw [String.toList_append, String.toList_append, List.append_assoc,
            splitAtGap?_renderGroups]
          simp [splitAtGap?]
        have whole := eq_of_isRun isRun
        have sizes := congrArg List.length whole
        rw [List.length_append, List.length_append, List.length_replicate, eight] at sizes
        rw [parseV6?_of_gap gap (parseRun?_renderGroups false _) (parseRun?_renderGroups true _)
          (by omega)]
        have missing : 8 - (groups.take start).length - (groups.drop (start + length)).length =
            length := by
          omega
        rw [missing, whole]

theorem colon_mem_renderV6 {groups : List UInt16} (eight : groups.length = 8) :
    ':' ∈ (renderV6 groups).toList := by
  unfold renderV6
  split
  · simp
  · dsimp only
    split
    · cases groups with
      | nil => cases eight
      | cons group groups =>
          cases groups with
          | nil => cases eight
          | cons next groups => simp [toList_renderGroups_cons_cons]
    · simp

theorem ofGroups?_toList (groups : Vector UInt16 8) :
    ofGroups? groups.toList = some (.v6 groups) := by
  have eight : groups.toList.toArray.size = 8 := by simp
  rw [ofGroups?, dif_pos eight]
  rfl

/-- The text of an address is read as the address. -/
theorem parse?_render (address : IpAddress) : parse? address.render = some address := by
  cases address with
  | v4 address => simp only [parse?, render, Ipv4.parse?_render]
  | v6 groups =>
      have eight : groups.toList.length = 8 := by simp
      simp only [parse?, render, Ipv4.parse?_eq_none_of_colon (colon_mem_renderV6 eight),
        parseV6?_renderV6 eight, ofGroups?_toList]

variable {allowsV4 : Bool} {character : Char} {front back : List Char} {groups : List UInt16}

/-- The characters between colons. -/
def IsPieceCharacter (character : Char) : Prop := character.isAlphanum ∨ character = '.'

theorem isAlphanum_of_hexDigit? (isHex : (hexDigit? character).isSome) :
    character.isAlphanum := by
  have kinds : character.isAlphanum =
      (character.isUpper || character.isLower || character.isDigit) := rfl
  have upTo : 'f'.val ≤ 'z'.val ∧ 'F'.val ≤ 'Z'.val := by decide
  rw [kinds, Bool.or_eq_true, Bool.or_eq_true]
  rw [hexDigit?] at isHex
  split at isHex
  · next digit => exact .inr digit
  · split at isHex
    · next lower =>
        have below := UInt32.le_trans lower.2 upTo.1
        exact .inl (.inr (Bool.and_eq_true_iff.mpr
          ⟨decide_eq_true lower.1, decide_eq_true below⟩))
    · split at isHex
      · next upper =>
          exact .inl (.inl (decide_eq_true ⟨upper.1, UInt32.le_trans upper.2 upTo.2⟩))
      · cases isHex

theorem isAlphanum_of_parseGroup? (isGroup : (parseGroup? characters).isSome)
    (member : character ∈ characters) : character.isAlphanum := by
  apply isAlphanum_of_hexDigit?
  refine isSome_of_mapM ?_ character member
  by_contra noDigits
  rw [Option.not_isSome_iff_eq_none] at noDigits
  simp [parseGroup?, noDigits] at isGroup

/-- Every piece is a group, but the last may be two. -/
theorem pieces_of_parseGroups? {pieces : List (List Char)}
    (read : parseGroups? allowsV4 pieces = some groups) :
    (∀ piece ∈ pieces, ∀ character ∈ piece, IsPieceCharacter character) ∧
      pieces.length ≤ groups.length ∧ groups.length ≤ pieces.length + 1 := by
  have ofGroup {piece : List Char} {group : UInt16} (isGroup : parseGroup? piece = some group) :
      ∀ character ∈ piece, IsPieceCharacter character :=
    fun _ member =>
      .inl (isAlphanum_of_parseGroup? (Option.isSome_iff_exists.mpr ⟨group, isGroup⟩) member)
  fun_induction parseGroups? allowsV4 pieces generalizing groups with
  | case1 => cases read; simp
  | case2 piece group isGroup =>
      cases read
      simpa using ofGroup isGroup
  | case3 piece _ _ =>
      obtain ⟨address, isAddress, rfl⟩ := Option.map_eq_some_iff.mp read
      refine ⟨?_, by simp [Ipv4.groups]⟩
      intro piece' isOnly character member
      cases List.mem_singleton.mp isOnly
      rcases Ipv4.mem_of_parse? isAddress member with digit | point
      · exact .inl (by simp [Char.isAlphanum, digit])
      · exact .inr point
  | case4 => cases read
  | case5 piece pieces several ih =>
      obtain ⟨group, isGroup, read⟩ := Option.bind_eq_some_iff.mp read
      obtain ⟨others, readOthers, same⟩ := Option.bind_eq_some_iff.mp read
      cases same
      obtain ⟨inOthers, few, many⟩ := ih readOthers
      refine ⟨List.forall_mem_cons.mpr ⟨ofGroup isGroup, inOthers⟩, ?_⟩
      simp only [List.length_cons]
      omega

theorem isRun_of_parseRun? (read : parseRun? allowsV4 characters = some groups) :
    (∀ character ∈ characters, IsPieceCharacter character ∨ character = ':') ∧
      characters.count ':' ≤ groups.length - 1 ∧ groups.length ≤ characters.count ':' + 2 := by
  rw [parseRun?] at read
  split at read
  · next empty =>
      cases read
      rw [List.isEmpty_iff.mp empty]
      simp
  · obtain ⟨inPieces, few, many⟩ := pieces_of_parseGroups? read
    have whole : [':'].intercalate (characters.splitOn ':') = characters :=
      List.intercalate_splitOn ':'
    have noColon : ∀ piece ∈ characters.splitOn ':', ':' ∉ piece := by
      intro piece isPiece colon
      rcases inPieces piece isPiece ':' colon with alphanum | point <;> contradiction
    have count := count_intercalate noColon
    rw [whole] at count
    refine ⟨?_, by omega, by omega⟩
    intro character member
    rw [← whole] at member
    rcases mem_of_mem_intercalate member with colon | ⟨piece, isPiece, inside⟩
    · exact .inr colon
    · exact .inl (inPieces piece isPiece character inside)

theorem eq_of_splitAtGap? (found : splitAtGap? readBefore characters = some (front, back)) :
    readBefore.reverse ++ characters = front ++ ':' :: ':' :: back := by
  fun_induction splitAtGap? readBefore characters with
  | case1 readBefore rest =>
      cases found
      rfl
  | case2 readBefore character rest _ ih => simpa using ih found
  | case3 => cases found

theorem length_of_ofGroups? {address : IpAddress} (eight : ofGroups? groups = some address) :
    groups.length = 8 := by
  rw [ofGroups?] at eight
  split at eight
  · next size => simpa using size
  · cases eight

/-- An address of version 6 is written in letters, digits and points, with colons between them, of
which there are at most eight. -/
theorem characters_of_parseV6? {address : IpAddress}
    (read : parseV6? characters = some address) :
    (∀ character ∈ characters, IsPieceCharacter character ∨ character = ':') ∧
      ':' ∈ characters ∧ characters.count ':' ≤ 8 := by
  unfold parseV6? at read
  split at read
  · obtain ⟨groups, run, eight⟩ := Option.bind_eq_some_iff.mp read
    obtain ⟨each, few, many⟩ := isRun_of_parseRun? run
    have length := length_of_ofGroups? eight
    refine ⟨each, List.count_pos_iff.mp ?_, ?_⟩ <;> omega
  · next front back gap =>
      have whole := eq_of_splitAtGap? gap
      obtain ⟨frontGroups, frontRun, read⟩ := Option.bind_eq_some_iff.mp read
      obtain ⟨backGroups, backRun, read⟩ := Option.bind_eq_some_iff.mp read
      obtain ⟨inFront, fewInFront, _⟩ := isRun_of_parseRun? frontRun
      obtain ⟨inBack, fewInBack, _⟩ := isRun_of_parseRun? backRun
      have room : frontGroups.length + backGroups.length ≤ 7 := by
        by_contra many
        simp [Nat.lt_of_not_le many] at read
      rw [List.reverse_nil, List.nil_append] at whole
      subst whole
      refine ⟨?_, by simp, ?_⟩
      · intro character member
        rcases List.mem_append.mp member with inside | behind
        · exact inFront character inside
        · rcases List.mem_cons.mp behind with colon | behind
          · exact .inr colon
          · rcases List.mem_cons.mp behind with colon | inside
            · exact .inr colon
            · exact inBack character inside
      · simp only [List.count_append, List.count_cons_self]
        omega

end IpAddress

end PrintProxy
