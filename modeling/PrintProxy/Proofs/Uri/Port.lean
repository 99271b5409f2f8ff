import Mathlib.Data.List.Induction
import PrintProxy.Proofs.Text.Decimal
import PrintProxy.Proofs.Uri.Parsing

/-!
# Ports behind authorities

A port can be put behind an authority unless a colon stands there already.
Reading tells by the number of colons behind the last `@` and the last closing
bracket.  The port is then found, and user information and host stay what they
were, because nothing in a port looks like an `@` or a bracket.
-/

namespace PrintProxy

theorem Numeral.readUInt16?_decimal (number : UInt16) :
    readUInt16? (decimal number.toNat) = some number := by
  have inBounds : number.toNat ≤ 65535 := Nat.le_of_lt_succ number.toNat_lt
  have denoted := digitsDenote_decimal number.toNat
  rw [readUInt16?, readUnsigned?_of_digitsDenote denoted inBounds, Option.map_some,
    UInt16.ofNat_toNat]

namespace Authority

variable {characters front rest digits : List Char} {character separator : Char}
  {progress start next : Progress}

/-- Everything that one character does to what has been seen. -/
structure Progress.Follows (progress : Progress) (character : Char) (next : Progress) : Prop where
  colons : next.colons =
    if character = '@' ∨ character = ']' then 0
    else progress.colons + if character = ':' then 1 else 0
  percent : next.percent =
    if character = '@' ∨ character = ']' then false
    else progress.percent || character == '%'
  opened : next.opened = (progress.opened || character == '[')
  closed : next.closed = (progress.closed || character == ']')
  opensOnce : character = '[' → progress.opened = false
  closesOpened : character = ']' → progress.opened = true

theorem Progress.follows_of_step (stepped : progress.step character = .ok next) :
    progress.Follows character next := by
  simp only [Progress.step] at stepped
  split at stepped
  · next isColon =>
      subst isColon
      split at stepped <;> cases stepped
      constructor <;> simp
  split at stepped
  · next isOpening =>
      subst isOpening
      split at stepped <;> cases stepped
      next first => constructor <;> simp_all
  split at stepped
  · next isClosing =>
      subst isClosing
      split at stepped <;> cases stepped
      next closes => constructor <;> simp_all
  split at stepped
  · next isAt =>
      subst isAt
      cases stepped
      constructor <;> simp
  split at stepped
  · next isPercent =>
      subst isPercent
      cases stepped
      constructor <;> simp
  · split at stepped <;> cases stepped
    constructor <;> simp [*]

theorem follows_of_foldlM_concat
    (read : (characters ++ [character]).foldlM Progress.step start = .ok next) :
    ∃ before, characters.foldlM Progress.step start = .ok before ∧
      before.Follows character next := by
  rw [List.foldlM_append, bind_eq_ok_iff] at read
  obtain ⟨before, readBefore, last⟩ := read
  rw [List.foldlM_cons, bind_eq_ok_iff] at last
  obtain ⟨_, stepped, same⟩ := last
  cases same
  exact ⟨before, readBefore, Progress.follows_of_step stepped⟩

/-- The characters behind the last `@` and the last closing bracket. -/
def behindBrackets (characters : List Char) : List Char :=
  (characters.reverse.takeWhile fun character => character != '@' && character != ']').reverse

theorem behindBrackets_concat (characters : List Char) (character : Char) :
    behindBrackets (characters ++ [character]) =
      if character = '@' ∨ character = ']' then []
      else behindBrackets characters ++ [character] := by
  rw [behindBrackets, List.reverse_concat, List.takeWhile_cons]
  by_cases ends : character = '@' ∨ character = ']'
  · rcases ends with rfl | rfl <;> rfl
  · rw [not_or] at ends
    simp [ends, behindBrackets]

/-- The colons that reading counts are those behind the last `@` and the last closing bracket. -/
theorem colons_of_foldlM (read : characters.foldlM Progress.step {} = .ok next) :
    next.colons = (behindBrackets characters).count ':' := by
  induction characters using List.reverseRecOn generalizing next with
  | nil =>
      cases read
      rfl
  | append_singleton characters character ih =>
      obtain ⟨before, readBefore, follows⟩ := follows_of_foldlM_concat read
      rw [follows.colons, behindBrackets_concat, ih readBefore]
      split
      · rfl
      · simp [List.count_append, List.count_singleton]

/-- A percent sign is remembered until an `@` or a closing bracket is behind it. -/
theorem percent_of_foldlM (read : characters.foldlM Progress.step {} = .ok next) :
    next.percent ↔ '%' ∈ behindBrackets characters := by
  induction characters using List.reverseRecOn generalizing next with
  | nil =>
      cases read
      simp [behindBrackets]
  | append_singleton characters character ih =>
      obtain ⟨before, readBefore, follows⟩ := follows_of_foldlM_concat read
      rw [follows.percent, behindBrackets_concat]
      split
      · simp
      · simp [ih readBefore, @eq_comm _ '%']

/-- Brackets that were seen are not forgotten. -/
theorem brackets_of_foldlM (read : characters.foldlM Progress.step start = .ok next) :
    (next.opened ↔ start.opened ∨ '[' ∈ characters) ∧
      (next.closed ↔ start.closed ∨ ']' ∈ characters) := by
  induction characters using List.reverseRecOn generalizing next with
  | nil =>
      cases read
      simp
  | append_singleton characters character ih =>
      obtain ⟨before, readBefore, follows⟩ := follows_of_foldlM_concat read
      obtain ⟨opened, closed⟩ := ih readBefore
      rw [follows.opened, follows.closed, Bool.or_eq_true, Bool.or_eq_true, opened, closed]
      simp only [beq_iff_eq, List.mem_append, List.mem_singleton, or_assoc, @eq_comm _ character,
        and_self]

theorem opened_of_closed (read : characters.foldlM Progress.step {} = .ok next)
    (isClosed : next.closed) : next.opened := by
  induction characters using List.reverseRecOn generalizing next with
  | nil =>
      cases read
      cases isClosed
  | append_singleton characters character ih =>
      obtain ⟨before, readBefore, follows⟩ := follows_of_foldlM_concat read
      rw [follows.closed, Bool.or_eq_true] at isClosed
      rw [follows.opened, Bool.or_eq_true]
      left
      rcases isClosed with already | closes
      · exact ih readBefore already
      · exact follows.closesOpened (beq_iff_eq.mp closes)

theorem exists_complete_of_check (checked : check characters = .ok ()) :
    ∃ last, characters.foldlM Progress.step {} = .ok last ∧ last.isComplete := by
  obtain ⟨last, read, complete⟩ := bind_eq_ok_iff.mp checked
  refine ⟨last, read, ?_⟩
  by_contra incomplete
  simp [incomplete] at complete

/-- A bracket that is opened in an authority is closed behind. -/
theorem closing_mem_of_check (checked : check (front ++ '[' :: rest) = .ok ()) : ']' ∈ rest := by
  obtain ⟨last, read, isComplete⟩ := exists_complete_of_check checked
  rw [List.foldlM_append, bind_eq_ok_iff] at read
  obtain ⟨before, readFront, read⟩ := read
  rw [List.foldlM_cons, bind_eq_ok_iff] at read
  obtain ⟨opening, stepped, readRest⟩ := read
  have follows := Progress.follows_of_step stepped
  obtain ⟨opened, closed⟩ := brackets_of_foldlM readRest
  have notClosed : before.closed = false := by
    by_contra already
    have isOpen := opened_of_closed readFront (by simpa using already)
    rw [follows.opensOnce rfl] at isOpen
    cases isOpen
  have isOpen : last.opened := opened.mpr (.inl (by simp [follows.opened]))
  have isClosed : last.closed := by
    simp only [Progress.isComplete, Bool.and_eq_true, beq_iff_eq] at isComplete
    rw [← isComplete.1.1.1]
    exact isOpen
  have notBefore : ¬opening.closed := by simp [follows.closed, notClosed]
  exact (closed.mp isClosed).resolve_left notBefore

theorem percent_not_mem_of_check (checked : check characters = .ok ()) :
    '%' ∉ behindBrackets characters := by
  obtain ⟨last, read, isComplete⟩ := exists_complete_of_check checked
  rw [← percent_of_foldlM read]
  simp only [Progress.isComplete, Bool.and_eq_true, Bool.not_eq_true'] at isComplete
  simp [isComplete.2]

theorem ne_of_isPlain (plain : isPlain character) (other : Char)
    (notPlain : isPlain other = false) : character ≠ other := by
  rintro rfl
  rw [plain] at notPlain
  cases notPlain

theorem isPlain_of_isAlphanum (alphanum : character.isAlphanum) : isPlain character := by
  simp [isPlain, alphanum]

/-- Of characters without a part of their own and colons, only the colons matter. -/
theorem foldlM_colons (noAt : start.atSign = false)
    (each : ∀ character ∈ characters, isPlain character ∨ character = ':')
    (few : start.colons + characters.count ':' ≤ greatestColonCount) :
    characters.foldlM Progress.step start =
      .ok { start with colons := start.colons + characters.count ':' } := by
  induction characters generalizing start with
  | nil => rfl
  | cons character characters ih =>
      obtain ⟨first, others⟩ := List.forall_mem_cons.mp each
      rw [List.foldlM_cons]
      rcases first with plain | rfl
      · have notColon := ne_of_isPlain plain ':' rfl
        have stepped : start.step character = .ok start := by
          have same : { start with atSign := false } = start := by rw [← noAt]
          simp [Progress.step, plain, same, notColon, ne_of_isPlain plain '[' rfl,
            ne_of_isPlain plain ']' rfl, ne_of_isPlain plain '@' rfl, ne_of_isPlain plain '%' rfl]
        rw [List.count_cons_of_ne notColon] at few ⊢
        rw [stepped]
        exact ih noAt others few
      · rw [List.count_cons_self] at few ⊢
        have stepped : start.step ':' = .ok { start with colons := start.colons + 1 } := by
          have room : ¬greatestColonCount ≤ start.colons := by omega
          simp [Progress.step, room, ← noAt]
        have count := Nat.add_right_comm start.colons 1 (characters.count ':')
        rw [stepped, ← Nat.add_assoc, ← count]
        exact ih noAt others (by rw [count]; exact few)

theorem foldlM_plain (noAt : start.atSign = false)
    (each : ∀ character ∈ characters, isPlain character) (few : start.colons ≤ greatestColonCount) :
    characters.foldlM Progress.step start = .ok start := by
  have noColon : characters.count ':' = 0 :=
    List.count_eq_zero.mpr fun colon => ne_of_isPlain (each ':' colon) ':' rfl rfl
  simpa [noColon, few] using
    foldlM_colons noAt (fun character member => .inl (each character member)) (by simpa [noColon])

/-- A port can be put behind an authority unless a colon stands behind the user information and a
bracketed address. -/
theorem check_append_port (checked : check characters = .ok ())
    (areDigits : ∀ digit ∈ digits, digit.isDigit) :
    check (characters ++ ':' :: digits) =
      if ':' ∈ behindBrackets characters then .error .invalidAuthority else .ok () := by
  obtain ⟨last, read, isComplete⟩ := exists_complete_of_check checked
  have count := colons_of_foldlM read
  simp only [Progress.isComplete, Bool.and_eq_true, beq_iff_eq, decide_eq_true_eq,
    Bool.not_eq_true'] at isComplete
  obtain ⟨⟨⟨brackets, few⟩, noAt⟩, noPercent⟩ := isComplete
  have greatest : greatestColonCount = 8 := rfl
  have stepped : last.step ':' = .ok { last with colons := last.colons + 1, atSign := false } := by
    have room : ¬greatestColonCount ≤ last.colons := by omega
    simp [Progress.step, room]
  have readAll : (characters ++ ':' :: digits).foldlM Progress.step {} =
      .ok { last with colons := last.colons + 1, atSign := false } := by
    rw [List.foldlM_append, read]
    change (':' :: digits).foldlM Progress.step last = _
    have each : ∀ digit ∈ digits, isPlain digit := fun digit member =>
      isPlain_of_isAlphanum (by simp [Char.isAlphanum, areDigits digit member])
    rw [List.foldlM_cons, stepped]
    exact foldlM_plain rfl each (by simp only; omega)
  have whole : Progress.isComplete { last with colons := last.colons + 1, atSign := false } =
      decide (last.colons = 0) := by
    simp [Progress.isComplete, brackets, noPercent]
  have isNone : last.colons = 0 ↔ ':' ∉ behindBrackets characters := by
    rw [count, List.count_eq_zero]
  rw [check, readAll]
  change (if Progress.isComplete _ then _ else _) = _
  rw [whole]
  by_cases named : ':' ∈ behindBrackets characters
  · simp [named, isNone]
  · simp [named, isNone]
    rfl

theorem passed_of_absent (absent : separator ∉ rest) :
    ∀ character ∈ rest.reverse, (character != separator) = true := by
  intro character member
  rw [bne_iff_ne]
  rintro rfl
  exact absent (List.mem_reverse.mp member)

theorem afterLast_append (absent : separator ∉ rest) (front : List Char) :
    afterLast separator (front ++ rest) = afterLast separator front ++ rest := by
  rw [afterLast, List.reverse_append, List.takeWhile_append_of_pos (passed_of_absent absent),
    List.reverse_append, List.reverse_reverse]
  rfl

theorem afterLast_append_cons (absent : separator ∉ rest) (front : List Char) :
    afterLast separator (front ++ separator :: rest) = rest := by
  have parts : front ++ separator :: rest = (front ++ [separator]) ++ rest := by simp
  have nothing : afterLast separator (front ++ [separator]) = [] := by simp [afterLast]
  rw [parts, afterLast_append absent, nothing, List.nil_append]

theorem exists_append_afterLast (member : separator ∈ characters) :
    ∃ front, characters = front ++ separator :: afterLast separator characters := by
  have parts := List.takeWhile_append_dropWhile (p := (· != separator)) (l := characters.reverse)
  have stops := List.head?_dropWhile_not (· != separator) characters.reverse
  cases behind : characters.reverse.dropWhile (· != separator) with
  | nil =>
      have passed := List.dropWhile_eq_nil_iff.mp behind separator (List.mem_reverse.mpr member)
      simp at passed
  | cons last others =>
      have same : last = separator := by simpa [behind] using stops
      rw [behind, same] at parts
      have whole := congrArg List.reverse parts
      rw [List.reverse_append, List.reverse_cons, List.append_assoc, List.reverse_reverse] at whole
      exact ⟨others.reverse, whole.symm⟩

theorem beforeLast?_append (absent : separator ∉ rest) (front : List Char) :
    beforeLast? separator (front ++ rest) = beforeLast? separator front := by
  rw [beforeLast?, List.reverse_append, List.dropWhile_append_of_pos (passed_of_absent absent)]
  rfl

theorem behindBrackets_append (noAt : '@' ∉ rest) (noClosing : ']' ∉ rest) (front : List Char) :
    behindBrackets (front ++ rest) = behindBrackets front ++ rest := by
  have passed : ∀ character ∈ rest.reverse, (character != '@' && character != ']') = true := by
    intro character member
    rw [Bool.and_eq_true]
    exact ⟨passed_of_absent noAt character member, passed_of_absent noClosing character member⟩
  rw [behindBrackets, List.reverse_append, List.takeWhile_append_of_pos passed,
    List.reverse_append, List.reverse_reverse]
  rfl

/-- A colon is behind the brackets unless an `@` or a closing bracket is behind it. -/
theorem colon_mem_behindBrackets (noAt : '@' ∉ rest) (noClosing : ']' ∉ rest) (front : List Char) :
    ':' ∈ behindBrackets (front ++ ':' :: rest) := by
  rw [behindBrackets_append (by simpa using noAt) (by simpa using noClosing)]
  exact List.mem_append_right _ List.mem_cons_self

/-- An authority with a port, put behind it if it has none. -/
def withPort (authority : Authority) (port : UInt16) : Authority :=
  if authority.port?.isSome then authority
  else ⟨authority.text ++ ":" ++ Numeral.decimal port.toNat⟩

variable {authority : Authority} {port : UInt16}

theorem not_mem_decimal (noDigit : separator.isDigit = false) (number : Nat) :
    separator ∉ (Numeral.decimal number).toList := by
  intro member
  exact ne_of_isDigit (Numeral.isDigit_of_mem_decimal member) separator noDigit rfl

/-- What is put behind an authority shows only in its hosts and ports. -/
theorem not_mem_port (noColon : separator ≠ ':') (noDigit : separator.isDigit = false)
    (number : Nat) : separator ∉ ':' :: (Numeral.decimal number).toList := by
  rw [List.mem_cons, not_or]
  exact ⟨noColon, not_mem_decimal noDigit number⟩

theorem withPort_cases (authority : Authority) (port : UInt16) :
    authority.port?.isSome ∧ authority.withPort port = authority ∨
      authority.port? = none ∧ (authority.withPort port).text.toList =
        authority.text.toList ++ ':' :: (Numeral.decimal port.toNat).toList := by
  rw [withPort]
  split
  · next stated => exact .inl ⟨stated, rfl⟩
  · next missing =>
      refine .inr ⟨by simpa using missing, ?_⟩
      rw [String.toList_append, String.toList_append, List.append_assoc]
      rfl

theorem port?_withPort (authority : Authority) (port : UInt16) :
    (authority.withPort port).port? = some (authority.port?.getD port) := by
  rcases authority.withPort_cases port with ⟨stated, same⟩ | ⟨missing, text⟩
  · obtain ⟨own, isOwn⟩ := Option.isSome_iff_exists.mp stated
    rw [same, isOwn]
    rfl
  · have colon : (authority.withPort port).text.toList.contains ':' = true := by simp [text]
    rw [port?, if_pos colon, text, afterLast_append_cons (not_mem_decimal rfl _),
      String.ofList_toList, Numeral.readUInt16?_decimal, missing]
    rfl

theorem userInfo?_withPort (authority : Authority) (port : UInt16) :
    (authority.withPort port).userInfo? = authority.userInfo? := by
  rcases authority.withPort_cases port with ⟨_, same⟩ | ⟨_, text⟩
  · rw [same]
  · rw [userInfo?, text, beforeLast?_append (not_mem_port (by decide) rfl _)]
    rfl

theorem host_of_bracketed (bracketed : authority.hostPort = '[' :: rest) :
    authority.host = String.ofList ('[' :: rest.takeWhile (· != ']') ++ [']']) := by
  unfold host
  split
  · next same =>
      rw [bracketed] at same
      cases same
      rfl
  · next plain => exact absurd bracketed (plain _)

theorem host_of_not_bracketed (plain : ∀ rest, authority.hostPort ≠ '[' :: rest) :
    authority.host = String.ofList (authority.hostPort.takeWhile (· != ':')) := by
  unfold host
  split
  · next bracketed => exact absurd bracketed (plain _)
  · rfl

/-- Where no colon is behind the brackets there is no port. -/
theorem port?_eq_none_of_not_colon (noColon : ':' ∉ behindBrackets authority.text.toList) :
    authority.port? = none := by
  rw [port?]
  split
  · next colon =>
      obtain ⟨front, parts⟩ := exists_append_afterLast (List.contains_iff_mem.mp colon)
      have noNumber : '@' ∈ afterLast ':' authority.text.toList ∨
          ']' ∈ afterLast ':' authority.text.toList := by
        by_contra none
        rw [not_or] at none
        rw [parts] at noColon
        exact noColon (colon_mem_behindBrackets none.1 none.2 front)
      rw [← String.toList_ofList (l := afterLast ':' authority.text.toList)] at noNumber
      rcases noNumber with isAt | isBracket
      · exact Numeral.readUInt16?_eq_none_of_mem isAt rfl (by decide)
      · exact Numeral.readUInt16?_eq_none_of_mem isBracket rfl (by decide)
  · rfl

theorem closing_mem_of_hostPort (checked : check authority.text.toList = .ok ())
    (bracketed : authority.hostPort = '[' :: rest) : ']' ∈ rest := by
  have parts : authority.text.toList =
      (authority.text.toList.reverse.dropWhile (· != '@')).reverse ++ authority.hostPort := by
    rw [hostPort, afterLast, ← List.reverse_append, List.takeWhile_append_dropWhile,
      List.reverse_reverse]
  rw [parts, bracketed] at checked
  exact closing_mem_of_check checked

/-- A bracketed host is closed before the port, and any other host ends before it. -/
theorem host_withPort_of_closed
    (closed : ∀ rest, authority.hostPort = '[' :: rest → ']' ∈ rest) (port : UInt16) :
    (authority.withPort port).host = authority.host := by
  rcases authority.withPort_cases port with ⟨_, same⟩ | ⟨_, text⟩
  · rw [same]
  · have hostPorts : (authority.withPort port).hostPort =
        authority.hostPort ++ ':' :: (Numeral.decimal port.toNat).toList := by
      rw [hostPort, text, afterLast_append (not_mem_port (by decide) rfl _)]
      rfl
    by_cases bracketed : ∃ rest, authority.hostPort = '[' :: rest
    · obtain ⟨rest, bracketed⟩ := bracketed
      rw [bracketed, List.cons_append] at hostPorts
      rw [host_of_bracketed bracketed, host_of_bracketed hostPorts,
        takeWhile_append_of_mem (closed rest bracketed) (by decide)]
    · rw [not_exists] at bracketed
      have notBracketed : ∀ rest, (authority.withPort port).hostPort ≠ '[' :: rest := by
        intro rest same
        rw [hostPorts] at same
        cases isHostPort : authority.hostPort with
        | nil =>
            rw [isHostPort] at same
            cases same
        | cons first others =>
            rw [isHostPort] at same
            cases same
            exact bracketed others isHostPort
      rw [host_of_not_bracketed bracketed, host_of_not_bracketed notBracketed, hostPorts,
        takeWhile_append_cons (by decide)]

theorem host_withPort (checked : check authority.text.toList = .ok ()) (port : UInt16) :
    (authority.withPort port).host = authority.host :=
  host_withPort_of_closed (fun _ => closing_mem_of_hostPort checked) port

/-- A port can be read behind the authority if it has one, or room for one. -/
theorem check_withPort (checked : check authority.text.toList = .ok ()) (port : UInt16) :
    check (authority.withPort port).text.toList =
      if authority.port?.isSome ∨ ':' ∉ behindBrackets authority.text.toList then .ok ()
      else .error .invalidAuthority := by
  rcases authority.withPort_cases port with ⟨stated, same⟩ | ⟨missing, text⟩
  · rw [same, if_pos (.inl stated), checked]
  · have digits : ∀ digit ∈ (Numeral.decimal port.toNat).toList, digit.isDigit :=
      fun _ => Numeral.isDigit_of_mem_decimal
    rw [text, check_append_port checked digits, missing]
    by_cases named : ':' ∈ behindBrackets authority.text.toList <;> simp [named]

end Authority

end PrintProxy
