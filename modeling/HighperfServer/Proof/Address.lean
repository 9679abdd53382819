import HighperfServer.Construction.Environment
import HighperfServer.Library.Numeral
import HighperfServer.Library.Reader

namespace HighperfServer
open Library

namespace IpAddr
variable {mark : Char}

/-- The next character as a reader. -/
def readChar (target : Char) : Reader Unit := fun text =>
  (readGivenChar target text).map fun rest => ((), rest)

/-- A given character is read exactly when the text starts with it. -/
theorem readGivenChar_eq_some {target : Char} {text rest : Str} :
    readGivenChar target text = some rest ↔ text = target :: rest := by
  cases text with
  | nil => simp [readGivenChar]
  | cons head tail =>
      simp only [readGivenChar, Option.ite_none_right_eq_some, Option.some.injEq, List.cons.injEq]

/-- Reading a character consumes a part of the text. -/
theorem readChar_shortens (target : Char) : (readChar target).Shortens := by
  intro text value left read
  obtain ⟨rest, found, same⟩ := Option.map_eq_some_iff.mp read
  obtain ⟨_, rfl⟩ := Prod.mk.inj same
  exact ⟨[target], readGivenChar_eq_some.mp found⟩

/-- Reading a character is local before any other mark. -/
theorem readChar_local {target : Char} (different : mark ≠ target) :
    (readChar target).LocalBefore mark := by
  intro text rest
  cases text with
  | nil => simp [readChar, readGivenChar, different]
  | cons head tail =>
      simp only [List.cons_append, readChar, readGivenChar]
      split <;> rfl

/-- A separated reader reads the separator first, except at the first element. -/
theorem readSeparator_eq {A : Type} (separator : Char) (index : Nat) (inner : Reader A) :
    readSeparator separator index inner =
      if 0 < index then (readChar separator).andThen fun _ => inner else inner := by
  funext text
  unfold readSeparator
  split
  · simp only [Reader.andThen, readChar]
    cases readGivenChar separator text <;> rfl
  · rfl

/-- A separated reader consumes a part of the text when its element does. -/
theorem readSeparator_shortens {A : Type} (separator : Char) (index : Nat) {inner : Reader A}
    (shortens : inner.Shortens) :
    Reader.Shortens (A := A) (readSeparator separator index inner) := by
  rw [readSeparator_eq]
  split
  · exact (readChar_shortens separator).andThen fun _ => shortens
  · exact shortens

/-- A separated reader is local before a mark that is not its separator. -/
theorem readSeparator_local {A : Type} {separator : Char} (index : Nat) {inner : Reader A}
    (different : mark ≠ separator) (isLocal : inner.LocalBefore mark) :
    Reader.LocalBefore (A := A) mark (readSeparator separator index inner) := by
  rw [readSeparator_eq]
  split
  · exact (readChar_local different).andThen fun _ => isLocal
  · exact isLocal

/-- The digit loop stops at a suffix of its text. -/
theorem readDigits_shortens {radix maxDigits : Nat} {text left : Str} {result count value digits : Nat}
    (read : readDigits radix maxDigits result count text = some (value, digits, left)) :
    ∃ consumed, text = consumed ++ left := by
  induction text generalizing result count with
  | nil =>
      simp only [readDigits, Option.some.injEq, Prod.mk.injEq] at read
      exact ⟨[], read.2.2⟩
  | cons head tail ih =>
      simp only [readDigits] at read
      split at read
      · obtain ⟨_, more⟩ := Option.ite_none_left_eq_some.mp read
        obtain ⟨consumed, same⟩ := ih more
        exact ⟨head :: consumed, by rw [same]; rfl⟩
      · simp only [Option.some.injEq, Prod.mk.injEq] at read
        exact ⟨[], read.2.2⟩

/-- A mark that is no digit ends the digits. -/
theorem readDigits_local {radix : Nat} (solid : toDigit radix mark = none) (maxDigits result count : Nat)
    (text rest : Str) :
    readDigits radix maxDigits result count (text ++ mark :: rest) =
      (readDigits radix maxDigits result count text).map fun (value, digits, left) =>
        (value, digits, left ++ mark :: rest) := by
  induction text generalizing result count with
  | nil => simp [readDigits, solid]
  | cons head tail ih =>
      simp only [List.cons_append, readDigits]
      split
      · split
        · rfl
        · exact ih _ _
      · rfl

/-- A number consumes a part of the text. -/
theorem readNumber_shortens (radix maxDigits bound : Nat) (allowZeroPrefix : Bool) :
    Reader.Shortens (A := Nat) (readNumber radix maxDigits bound allowZeroPrefix) := by
  intro text value left read
  unfold readNumber at read
  split at read
  · exact absurd read (by simp)
  · rename_i result count rest digits
    obtain ⟨_, read⟩ := Option.ite_none_left_eq_some.mp read
    obtain ⟨_, read⟩ := Option.ite_none_left_eq_some.mp read
    obtain ⟨_, read⟩ := Option.ite_none_right_eq_some.mp read
    obtain ⟨_, rfl⟩ := Prod.mk.inj (Option.some.inj read)
    exact readDigits_shortens digits

/-- A number is local before a mark that is no digit. -/
theorem readNumber_local {radix : Nat} (solid : toDigit radix mark = none) (maxDigits bound : Nat)
    (allowZeroPrefix : Bool) :
    Reader.LocalBefore (A := Nat) mark (readNumber radix maxDigits bound allowZeroPrefix) := by
  intro text rest
  unfold readNumber
  rw [readDigits_local solid]
  cases text with
  | nil => simp [readDigits]
  | cons head tail =>
      cases readDigits radix maxDigits 0 0 (head :: tail) with
      | none => rfl
      | some result =>
          by_cases refused : (allowZeroPrefix = false ∧ head = '0') ∧ 1 < result.2.1 <;>
            by_cases empty : result.2.1 = 0 <;> by_cases fits : result.1 < bound <;>
            simp [refused, empty, fits]

/-- An IPv4 address is read as four octets in sequence. -/
theorem readIpv4Addr_eq : readIpv4Addr =
    Reader.andThen (readOctet 0) fun first => Reader.andThen (readOctet 1) fun second =>
      Reader.andThen (readOctet 2) fun third => Reader.andThen (readOctet 3) fun fourth text =>
        some (BitVec.ofNat 32 (((first * 256 + second) * 256 + third) * 256 + fourth), text) := rfl

theorem readOctet_shortens (index : Nat) : Reader.Shortens (A := Nat) (readOctet index) :=
  readSeparator_shortens '.' index (readNumber_shortens 10 3 256 false)

/-- An IPv4 address consumes a part of the text. -/
theorem readIpv4Addr_shortens : Reader.Shortens (A := BitVec 32) readIpv4Addr := by
  rw [readIpv4Addr_eq]
  refine (readOctet_shortens 0).andThen fun first => ?_
  refine (readOctet_shortens 1).andThen fun second => ?_
  refine (readOctet_shortens 2).andThen fun third => ?_
  exact (readOctet_shortens 3).andThen fun fourth => Reader.shortens_return _

theorem readOctet_local (index : Nat) (noDot : mark ≠ '.') (solid : toDigit 10 mark = none) :
    Reader.LocalBefore (A := Nat) mark (readOctet index) :=
  readSeparator_local index noDot (readNumber_local solid 3 256 false)

/-- An IPv4 address is local before a mark that is neither a digit nor a dot. -/
theorem readIpv4Addr_local (noDot : mark ≠ '.') (solid : toDigit 10 mark = none) :
    Reader.LocalBefore (A := BitVec 32) mark readIpv4Addr := by
  rw [readIpv4Addr_eq]
  refine (readOctet_local 0 noDot solid).andThen fun first => ?_
  refine (readOctet_local 1 noDot solid).andThen fun second => ?_
  refine (readOctet_local 2 noDot solid).andThen fun third => ?_
  exact (readOctet_local 3 noDot solid).andThen fun fourth => Reader.localBefore_return _

/-- The groups of an IPv6 address end at a suffix of the text. -/
theorem readGroups_shortens (left index : Nat) (text : Str) :
    ∃ consumed, text = consumed ++ (readGroups left index text).2.2 := by
  induction left generalizing index text with
  | zero => exact ⟨[], rfl⟩
  | succ left ih =>
      unfold readGroups
      split
      · rename_i address rest embedded
        obtain ⟨_, embedded⟩ := Option.ite_none_right_eq_some.mp embedded
        exact readSeparator_shortens ':' index readIpv4Addr_shortens _ _ _ embedded
      · split
        · rename_i group rest read
          obtain ⟨first, same⟩ := readSeparator_shortens ':' index
            (readNumber_shortens 16 4 65536 true) _ _ _ read
          obtain ⟨later, more⟩ := ih (index + 1) rest
          refine ⟨first ++ later, ?_⟩
          rw [List.append_assoc, ← more]
          exact same
        · exact ⟨[], rfl⟩

/-- A mark that belongs to no address ends the groups. -/
theorem readGroups_local (noDot : mark ≠ '.') (noColon : mark ≠ ':') (solid : toDigit 16 mark = none)
    (solidDecimal : toDigit 10 mark = none) (left index : Nat) (text rest : Str) :
    readGroups left index (text ++ mark :: rest) =
      ((readGroups left index text).1, (readGroups left index text).2.1,
        (readGroups left index text).2.2 ++ mark :: rest) := by
  induction left generalizing index text with
  | zero => rfl
  | succ left ih =>
      have octets := readSeparator_local index noColon (readIpv4Addr_local noDot solidDecimal) text rest
      have group := readSeparator_local index noColon (readNumber_local solid 4 65536 true) text rest
      unfold readGroups
      simp only [octets, group]
      by_cases inside : 0 < left
      · simp only [inside, if_true]
        cases readSeparator ':' index readIpv4Addr text with
        | some found => rfl
        | none =>
            simp only [Option.map_none]
            cases readSeparator ':' index (readNumber 16 4 65536 true) text with
            | none => rfl
            | some found => simp only [Option.map_some, ih]
      · simp only [inside, if_false]
        cases readSeparator ':' index (readNumber 16 4 65536 true) text with
        | none => rfl
        | some found => simp only [Option.map_some, ih]

theorem readGivenChar_local {target : Char} (different : mark ≠ target) (text rest : Str) :
    readGivenChar target (text ++ mark :: rest) =
      (readGivenChar target text).map (· ++ mark :: rest) := by
  cases text with
  | nil => simp [readGivenChar, different]
  | cons head tail =>
      simp only [List.cons_append, readGivenChar]
      split <;> rfl

/-- An IPv6 address consumes a part of the text. -/
theorem readIpv6Addr_shortens : Reader.Shortens (A := BitVec 128) readIpv6Addr := by
  intro text value left read
  obtain ⟨front, split⟩ := readGroups_shortens 8 0 text
  unfold readIpv6Addr at read
  dsimp only at read
  split at read
  · obtain ⟨_, rfl⟩ := Prod.mk.inj (Option.some.inj read)
    exact ⟨front, split⟩
  · obtain ⟨_, read⟩ := Option.ite_none_left_eq_some.mp read
    obtain ⟨afterFirst, first, read⟩ := Option.bind_eq_some_iff.mp read
    obtain ⟨afterSecond, second, read⟩ := Option.bind_eq_some_iff.mp read
    obtain ⟨_, rfl⟩ := Prod.mk.inj (Option.some.inj read)
    obtain ⟨back, rest⟩ :=
      readGroups_shortens (8 - ((readGroups 8 0 text).1.length + 1)) 0 afterSecond
    refine ⟨front ++ ':' :: ':' :: back, ?_⟩
    rw [readGivenChar_eq_some.mp first, readGivenChar_eq_some.mp second, rest] at split
    simpa using split

/-- An IPv6 address is local before a mark that no part of an address contains. -/
theorem readIpv6Addr_local (noDot : mark ≠ '.') (noColon : mark ≠ ':')
    (solid : toDigit 16 mark = none) (solidDecimal : toDigit 10 mark = none) :
    Reader.LocalBefore (A := BitVec 128) mark readIpv6Addr := by
  intro text rest
  unfold readIpv6Addr
  simp only [readGroups_local noDot noColon solid solidDecimal, readGivenChar_local noColon]
  by_cases whole : (readGroups 8 0 text).1.length = 8
  · simp [whole]
  · by_cases embedded : (readGroups 8 0 text).2.1 = true
    · simp [whole, embedded]
    · simp only [whole, if_false, embedded, Bool.false_eq_true]
      cases readGivenChar ':' (readGroups 8 0 text).2.2 with
      | none => rfl
      | some afterFirst =>
          simp only [Option.map_some, Option.bind_eq_bind, Option.bind_some, readGivenChar_local noColon]
          cases readGivenChar ':' afterFirst with
          | none => rfl
          | some afterSecond =>
              simp [readGroups_local noDot noColon solid solidDecimal]

/-- A text without a dot is no IPv4 address. -/
theorem readIpv4Addr_of_no_dot {text : Str} (clean : '.' ∉ text) : readIpv4Addr text = none := by
  rw [readIpv4Addr_eq, Option.eq_none_iff_forall_not_mem]
  intro result read
  obtain ⟨first, opened, more⟩ := Option.bind_eq_some_iff.mp read
  obtain ⟨second, next, _⟩ := Option.bind_eq_some_iff.mp more
  obtain ⟨consumed, same⟩ := readOctet_shortens 0 _ _ _ opened
  rw [readOctet, readSeparator, if_pos (by decide)] at next
  obtain ⟨rest, dot, _⟩ := Option.bind_eq_some_iff.mp next
  have present := readGivenChar_eq_some.mp dot
  exact clean (by rw [same, present]; simp)

/-- No number starts with a bracket. -/
theorem readNumber_bracket {radix : Nat} (maxDigits bound : Nat) (allowZeroPrefix : Bool) (rest : Str) :
    readNumber radix maxDigits bound allowZeroPrefix ('[' :: rest) = none := by
  simp [readNumber, readDigits, toDigit]

theorem readIpv4Addr_bracket (rest : Str) : readIpv4Addr ('[' :: rest) = none := by
  simp [readIpv4Addr, readOctet, readSeparator, readNumber_bracket]

theorem readIpv6Addr_bracket (rest : Str) : readIpv6Addr ('[' :: rest) = none := by
  have groups : readGroups 8 0 ('[' :: rest) = ([], false, '[' :: rest) := by
    simp [readGroups, readSeparator, readIpv4Addr_bracket, readNumber_bracket]
  simp [readIpv6Addr, groups, readGivenChar]

/-- A digit limit beyond the text is no limit. -/
theorem readDigits_enough {radix result count small large : Nat} {text : Str}
    (smallEnough : count + text.length ≤ small) (largeEnough : count + text.length ≤ large) :
    readDigits radix small result count text = readDigits radix large result count text := by
  induction text generalizing result count with
  | nil => rfl
  | cons head tail ih =>
      rw [List.length_cons] at smallEnough largeEnough
      simp only [readDigits]
      split
      · rw [if_neg (by omega), if_neg (by omega)]
        exact ih (by omega) (by omega)
      · rfl

/-- A limit past the length of the text is no limit. -/
theorem readNumber_enough {radix bound limit : Nat} {allowZeroPrefix : Bool} {text : Str}
    (enough : text.length ≤ limit) :
    readNumber radix limit bound allowZeroPrefix text =
      readNumber radix text.length bound allowZeroPrefix text := by
  unfold readNumber
  rw [readDigits_enough (by omega) (by omega : 0 + text.length ≤ text.length)]

/-- The character of a digit reads back as that digit. -/
theorem toDigit_digitChar {radix digit : Nat} (small : radix ≤ 16) (below : digit < radix) :
    toDigit radix digit.digitChar = some digit := by
  have hexadecimal : ∀ digit < 16, toDigit radix digit.digitChar =
      if digit < radix then some digit else none := by
    intro digit inside
    interval_cases digit <;> rfl
  rw [hexadecimal digit (by omega), if_pos below]

/-- Digits within the limit are read up to the first other character. -/
theorem readDigits_map {radix maxDigits result count : Nat} {digits : List Nat} {rest : Str}
    (small : radix ≤ 16) (below : ∀ digit ∈ digits, digit < radix)
    (stops : ∀ char ∈ rest.head?, toDigit radix char = none)
    (within : count + digits.length ≤ maxDigits) :
    readDigits radix maxDigits result count (digits.map Nat.digitChar ++ rest) =
      some (digitsValue radix result digits, count + digits.length, rest) := by
  induction digits generalizing result count with
  | nil =>
      cases rest with
      | nil => rfl
      | cons head tail =>
          have solid := stops head rfl
          simp [readDigits, solid, digitsValue]
  | cons digit tail ih =>
      rw [List.length_cons] at within
      have tailBelow : ∀ later ∈ tail, later < radix := fun later member =>
        below later (List.mem_cons_of_mem _ member)
      rw [List.map_cons, List.cons_append, readDigits,
        toDigit_digitChar small (below digit List.mem_cons_self)]
      dsimp only
      rw [if_neg (by omega), ih tailBelow (by omega), List.length_cons]
      simp only [digitsValue, List.foldl_cons]
      congr 3
      omega

/-- A numeral below the bound is read back. -/
theorem readNumber_numeral {radix maxDigits bound number : Nat} {allowZeroPrefix : Bool} {rest : Str}
    (base : 1 < radix) (small : radix ≤ 16) (fits : number < bound)
    (within : (Nat.toDigits radix number).length ≤ maxDigits)
    (zeros : allowZeroPrefix = true ∨ radix = 10)
    (stops : ∀ char ∈ rest.head?, toDigit radix char = none) :
    readNumber radix maxDigits bound allowZeroPrefix (Nat.toDigits radix number ++ rest) =
      some (number, rest) := by
  obtain ⟨digits, written, below, value⟩ := toDigits_eq_map base number
  have nonempty : digits ≠ [] := by
    rintro rfl
    exact absurd written Nat.toDigits_ne_nil
  have positive : digits.length ≠ 0 := fun none => nonempty (List.eq_nil_of_length_eq_zero none)
  have plain : allowZeroPrefix = true ∨ digits.length = 1 ∨
      (Nat.toDigits radix number ++ rest).head? ≠ some '0' := by
    rcases zeros with allowed | rfl
    · exact .inl allowed
    · by_cases zero : number = 0
      · subst zero
        rw [Nat.toDigits_zero] at written
        have lengths := congrArg List.length written
        simp only [List.length_cons, List.length_nil, List.length_map] at lengths
        exact .inr (.inl (by omega))
      · rw [List.head?_append_of_ne_nil _ Nat.toDigits_ne_nil]
        exact .inr (.inr (toDigits_head_ne_zero (Nat.pos_of_ne_zero zero)))
  rw [written, List.length_map] at within
  unfold readNumber
  rw [written, readDigits_map small below stops (by omega), value, ← written]
  dsimp only
  rw [if_neg (by omega), if_neg _, if_pos fits]
  rcases plain with allowed | single | solid
  · simp [allowed]
  · simp [single]
  · intro refused
    simp only [Bool.and_eq_true, decide_eq_true_eq] at refused
    exact solid refused.1.2

end IpAddr

namespace SocketAddr
open IpAddr
variable {mark : Char}

/-- A marked number consumes a part of the text. -/
theorem readSuffix_shortens (opening : Char) (bound : Nat) :
    Reader.Shortens (A := Nat) (readSuffix opening bound) := by
  intro text value left read
  obtain ⟨rest, opened, number⟩ := Option.bind_eq_some_iff.mp read
  obtain ⟨consumed, same⟩ := readNumber_shortens 10 rest.length bound true _ _ _ number
  exact ⟨opening :: consumed, by rw [readGivenChar_eq_some.mp opened, same]; rfl⟩

/-- A marked number is local before a mark that is neither its own mark nor a digit. -/
theorem readSuffix_local {opening : Char} (different : mark ≠ opening)
    (solid : toDigit 10 mark = none) (bound : Nat) :
    Reader.LocalBefore (A := Nat) mark (readSuffix opening bound) := by
  intro text rest
  unfold readSuffix
  rw [readGivenChar_local different]
  cases readGivenChar opening text with
  | none => rfl
  | some inner =>
      simp only [Option.map_some, Option.bind_some]
      rw [readNumber_local solid, readNumber_enough (by simp)]

/-- A suffix that leaves nothing has no mark behind its opening. -/
theorem not_mem_of_readSuffix {opening : Char} (solid : toDigit 10 mark = none) {bound value : Nat}
    {text : Str} (read : readSuffix opening bound text = some (value, [])) :
    ∃ digits, text = opening :: digits ∧ mark ∉ digits := by
  obtain ⟨digits, opened, number⟩ := Option.bind_eq_some_iff.mp read
  refine ⟨digits, readGivenChar_eq_some.mp opened, ?_⟩
  intro member
  obtain ⟨before, after, same⟩ := List.append_of_mem member
  rw [same] at number
  obtain ⟨left, _, empty⟩ := (readNumber_local solid _ bound true).of_some number
  exact absurd empty.symm (by simp)

/-- The decimal of a port is read to its end. -/
theorem readSuffix_decimal (opening : Char) {bound value : Nat} (fits : value < bound) :
    readSuffix opening bound (opening :: decimal value) = some (value, []) := by
  have number : readNumber 10 (decimal value).length bound true (decimal value ++ []) =
      some (value, []) :=
    readNumber_numeral (by decide) (by decide) fits (Nat.le_refl _) (.inl rfl) (by simp)
  rw [List.append_nil] at number
  simp only [readSuffix, readGivenChar, if_true, Option.bind_some]
  exact number

/-- A host is spelled as a dotted IPv4 address, or as an IPv6 address in brackets with or without
a scope. -/
def Spells (host : Str) (ip : IpAddr) (scopeId : Nat) : Prop :=
  (∃ address, ip = .v4 address ∧ scopeId = 0 ∧ readIpv4Addr host = some (address, [])) ∨
    ∃ address inner left, ip = .v6 address ∧ host = '[' :: inner ++ [']'] ∧
      readIpv6Addr inner = some (address, left) ∧ (readScopeId left).getD (0, left) = (scopeId, [])

/-- A marked number is below its bound. -/
theorem lt_of_readSuffix {opening : Char} {bound value : Nat} {text left : Str}
    (read : readSuffix opening bound text = some (value, left)) : value < bound := by
  obtain ⟨digits, _, number⟩ := Option.bind_eq_some_iff.mp read
  unfold readNumber at number
  split at number
  · exact absurd number (by simp)
  · obtain ⟨_, number⟩ := Option.ite_none_left_eq_some.mp number
    obtain ⟨_, number⟩ := Option.ite_none_left_eq_some.mp number
    obtain ⟨fits, number⟩ := Option.ite_none_right_eq_some.mp number
    obtain ⟨rfl, _⟩ := Prod.mk.inj (Option.some.inj number)
    exact fits

/-- A spelled scope fits into 32 bits. -/
theorem Spells.scope_lt {host : Str} {ip : IpAddr} {scopeId : Nat} (spelled : Spells host ip scopeId) :
    scopeId < 2 ^ 32 := by
  rcases spelled with ⟨_, _, rfl, _⟩ | ⟨_, _, left, _, _, _, scope⟩
  · decide
  · cases read : readScopeId left with
    | none =>
        rw [read] at scope
        obtain ⟨rfl, _⟩ := Prod.mk.inj scope
        decide
    | some result =>
        rw [read] at scope
        obtain rfl : result = (scopeId, []) := scope
        exact lt_of_readSuffix read

/-- An IPv4 host has no scope. -/
theorem Spells.unscoped {host : Str} {ip : IpAddr} {scopeId : Nat} (spelled : Spells host ip scopeId)
    (address : BitVec 32) (dotted : ip = .v4 address) : scopeId = 0 := by
  rcases spelled with ⟨_, _, zero, _⟩ | ⟨_, _, _, bracketed, _⟩
  · exact zero
  · exact absurd (dotted.symm.trans bracketed) (by simp)

/-- A port that is read to the end has no text before it. -/
theorem eq_nil_of_readPort {before : Str} {port value : Nat}
    (read : readPort (before ++ ':' :: decimal port) = some (value, [])) : before = [] := by
  cases before with
  | nil => rfl
  | cons head tail =>
      have solid : toDigit 10 ':' = none := by decide
      obtain ⟨digits, same, clean⟩ := not_mem_of_readSuffix solid read
      obtain ⟨_, rfl⟩ := List.cons.inj same
      exact absurd (by simp) clean

/-- A decimal number contains no colon. -/
theorem decimal_no_colon (number : Nat) : ':' ∉ decimal number := by
  intro member
  exact absurd (Nat.isDigit_of_mem_toDigits (by decide) (by decide) member) (by decide)

/-- The IPv4 reader finds a dotted host in front of the port. -/
theorem readSocketAddrV4_host_iff {host : Str} {port : Nat} (fits : port < 2 ^ 16)
    (address : SocketAddr) :
    readSocketAddrV4 (host ++ ':' :: decimal port) = some (address, []) ↔
      ∃ ip, readIpv4Addr host = some (ip, []) ∧ address = ⟨.v4 ip, port, 0⟩ := by
  have isLocal : Reader.LocalBefore (A := BitVec 32) ':' readIpv4Addr :=
    readIpv4Addr_local (by decide) (by decide)
  have written : readPort (':' :: decimal port) = some (port, []) := readSuffix_decimal ':' fits
  constructor
  · intro read
    obtain ⟨first, opened, read⟩ := Option.bind_eq_some_iff.mp read
    obtain ⟨second, ended, read⟩ := Option.bind_eq_some_iff.mp read
    obtain ⟨rfl, empty⟩ := Prod.mk.inj (Option.some.inj read)
    obtain ⟨before, inside, left⟩ := isLocal.of_some opened
    have whole : readPort (before ++ ':' :: decimal port) = some (second.1, []) := by
      rw [← left, ← empty]
      exact ended
    obtain rfl := eq_nil_of_readPort whole
    rw [List.nil_append, written] at whole
    obtain ⟨same, _⟩ := Prod.mk.inj (Option.some.inj whole)
    exact ⟨first.1, inside, by rw [same]⟩
  · rintro ⟨ip, dotted, rfl⟩
    simp [readSocketAddrV4, isLocal host, dotted, written]

/-- A bracketed address is read as its bracket, address, optional scope, bracket and port. -/
theorem readSocketAddrV6_eq (text : Str) : readSocketAddrV6 text =
    (readGivenChar '[' text).bind fun inside => (readIpv6Addr inside).bind fun first =>
      (readGivenChar ']' ((readScopeId first.2).getD (0, first.2)).2).bind fun outside =>
        (readPort outside).bind fun second =>
          some (⟨.v6 first.1, second.1, ((readScopeId first.2).getD (0, first.2)).1⟩, second.2) := rfl

theorem scope_shortens (text : Str) :
    ∃ consumed, text = consumed ++ ((readScopeId text).getD (0, text)).2 := by
  cases read : readScopeId text with
  | none => exact ⟨[], rfl⟩
  | some result => exact readSuffix_shortens '%' _ text result.1 result.2 read

/-- The IPv6 reader finds a bracketed host in front of the port. -/
theorem readSocketAddrV6_host_iff {host : Str} {port : Nat} (fits : port < 2 ^ 16)
    (address : SocketAddr) :
    readSocketAddrV6 (host ++ ':' :: decimal port) = some (address, []) ↔
      ∃ ip inner left scopeId, host = '[' :: inner ++ [']'] ∧
        readIpv6Addr inner = some (ip, left) ∧ (readScopeId left).getD (0, left) = (scopeId, []) ∧
        address = ⟨.v6 ip, port, scopeId⟩ := by
  have isLocal : Reader.LocalBefore (A := BitVec 128) ']' readIpv6Addr :=
    readIpv6Addr_local (by decide) (by decide) (by decide) (by decide)
  have scopeLocal : Reader.LocalBefore (A := Nat) ']' readScopeId :=
    readSuffix_local (by decide) (by decide) _
  have written : readPort (':' :: decimal port) = some (port, []) := readSuffix_decimal ':' fits
  have scopeBefore (left rest : Str) : (readScopeId (left ++ ']' :: rest)).getD (0, left ++ ']' :: rest) =
      (((readScopeId left).getD (0, left)).1, ((readScopeId left).getD (0, left)).2 ++ ']' :: rest) := by
    rw [scopeLocal]
    cases readScopeId left <;> rfl
  constructor
  · intro read
    rw [readSocketAddrV6_eq] at read
    obtain ⟨afterBracket, bracket, read⟩ := Option.bind_eq_some_iff.mp read
    obtain ⟨first, opened, read⟩ := Option.bind_eq_some_iff.mp read
    obtain ⟨afterClosing, closing, read⟩ := Option.bind_eq_some_iff.mp read
    obtain ⟨second, ended, read⟩ := Option.bind_eq_some_iff.mp read
    obtain ⟨rfl, empty⟩ := Prod.mk.inj (Option.some.inj read)
    have ended : readPort afterClosing = some (second.1, []) := by rw [ended, ← empty]
    have solid : toDigit 10 ':' = none := by decide
    obtain ⟨digits, rfl, clean⟩ := not_mem_of_readSuffix solid ended
    obtain ⟨scopeText, scopeSplit⟩ := scope_shortens first.2
    obtain ⟨consumed, split⟩ := readIpv6Addr_shortens _ _ _ opened
    have text := readGivenChar_eq_some.mp bracket
    rw [split, scopeSplit, readGivenChar_eq_some.mp closing] at text
    have parts : host ++ ':' :: decimal port =
        ('[' :: (consumed ++ scopeText) ++ [']']) ++ ':' :: digits := by simpa using text
    obtain ⟨rfl, rfl⟩ := append_cons_inj_right parts (decimal_no_colon port) clean
    have inner : readIpv6Addr ((consumed ++ scopeText) ++ ']' :: ':' :: decimal port) =
        some (first.1, first.2) := by
      rw [← opened, split, scopeSplit, readGivenChar_eq_some.mp closing]
      simp
    obtain ⟨before, inside, left⟩ := isLocal.of_some inner
    have rest := readGivenChar_eq_some.mp closing
    have scope := scopeBefore before (':' :: decimal port)
    rw [← left] at scope
    rw [scope] at rest
    have nothing : ((readScopeId before).getD (0, before)).2 = [] := by simpa using rest
    rw [written] at ended
    obtain ⟨same, _⟩ := Prod.mk.inj (Option.some.inj ended)
    refine ⟨first.1, consumed ++ scopeText, before, _, rfl, inside, Prod.ext rfl nothing, ?_⟩
    rw [scope, ← same]
  · rintro ⟨ip, inner, left, scopeId, rfl, bracketed, scope, rfl⟩
    have inside := isLocal inner (':' :: decimal port)
    rw [bracketed] at inside
    simp only [readSocketAddrV6, List.append_assoc, List.cons_append, List.nil_append, readGivenChar,
      if_true, Option.bind_eq_bind, Option.bind_some, inside, Option.map_some, scopeBefore, scope, written]
    rfl

/-- No text is read both as an IPv4 and as an IPv6 socket address. -/
theorem readSocketAddrV6_of_v4 {text : Str} {result : SocketAddr × Str}
    (dotted : readSocketAddrV4 text = some result) : readSocketAddrV6 text = none := by
  rw [readSocketAddrV6_eq]
  cases bracket : readGivenChar '[' text with
  | none => rfl
  | some rest =>
      rw [readGivenChar_eq_some.mp bracket] at dotted
      simp [readSocketAddrV4, readIpv4Addr_bracket] at dotted

/-- A socket address is the host and its port. -/
theorem parse_host_iff {host : Str} {port : Nat} (fits : port < 2 ^ 16) (address : SocketAddr) :
    parse (host ++ ':' :: decimal port) = some address ↔
      Spells host address.ip address.scopeId ∧ address.port = port := by
  have whole : parse (host ++ ':' :: decimal port) = some address ↔
      readSocketAddrV4 (host ++ ':' :: decimal port) = some (address, []) ∨
        readSocketAddrV6 (host ++ ':' :: decimal port) = some (address, []) := by
    generalize host ++ ':' :: decimal port = text
    unfold parse
    cases dotted : readSocketAddrV4 text with
    | none =>
        rw [Option.none_or]
        cases readSocketAddrV6 text with
        | none => simp
        | some result =>
            obtain ⟨found, left⟩ := result
            cases left <;> simp
    | some result =>
        have plain := readSocketAddrV6_of_v4 dotted
        obtain ⟨found, left⟩ := result
        rw [Option.some_or, plain]
        cases left <;> simp
  rw [whole, readSocketAddrV4_host_iff fits, readSocketAddrV6_host_iff fits]
  constructor
  · rintro (⟨ip, dotted, rfl⟩ | ⟨ip, inner, left, scopeId, bracketed, read, scope, rfl⟩)
    · exact ⟨.inl ⟨ip, rfl, rfl, dotted⟩, rfl⟩
    · exact ⟨.inr ⟨ip, inner, left, rfl, bracketed, read, scope⟩, rfl⟩
  · obtain ⟨ip, addressPort, scopeId⟩ := address
    rintro ⟨⟨v4, rfl, rfl, dotted⟩ | ⟨v6, inner, left, rfl, bracketed, read, scope⟩, rfl⟩
    · exact .inl ⟨v4, dotted, rfl⟩
    · exact .inr ⟨v6, inner, left, scopeId, bracketed, read, scope, rfl⟩

/-- An IPv6 address without brackets spells no host. -/
theorem not_spells_of_unbracketed {host : Str} {address : BitVec 128}
    (plain : IpAddr.parse host = some (.v6 address)) (ip : IpAddr) (scopeId : Nat) :
    ¬ Spells host ip scopeId := by
  rintro (⟨v4, _, _, dotted⟩ | ⟨v6, inner, left, _, rfl, _, _⟩)
  · simp [IpAddr.parse, readIpAddr, dotted] at plain
  · simp [IpAddr.parse, readIpAddr, readIpv4Addr_bracket, readIpv6Addr_bracket] at plain

end SocketAddr

namespace IpAddr

/-- Four decimal octets, or eight hexadecimal groups. -/
def written : IpAddr → Str
  | .v4 address =>
      ['.'].intercalate ((fixedDigits 256 4 address.toNat).map (Nat.toDigits 10))
  | .v6 address =>
      [':'].intercalate ((fixedDigits 65536 8 address.toNat).map (Nat.toDigits 16))

/-- A written octet is read up to the dot or the end. -/
theorem readNumber_octet {octet : Nat} {rest : Str} (small : octet < 256)
    (stops : ∀ char ∈ rest.head?, toDigit 10 char = none) :
    readNumber 10 3 256 false (Nat.toDigits 10 octet ++ rest) = some (octet, rest) :=
  readNumber_numeral (by decide) (by decide) small
    ((Nat.length_toDigits_le_iff (by decide) (by decide)).mpr (by omega)) (.inr rfl) stops

/-- A written group is read up to the colon or the end. -/
theorem readNumber_group {group : Nat} {rest : Str} (small : group < 65536)
    (stops : ∀ char ∈ rest.head?, toDigit 16 char = none) :
    readNumber 16 4 65536 true (Nat.toDigits 16 group ++ rest) = some (group, rest) :=
  readNumber_numeral (by decide) (by decide) small
    ((Nat.length_toDigits_le_iff (by decide) (by decide)).mpr (by omega)) (.inl rfl) stops

/-- Four octets with dots between them are read back as one address. -/
theorem readIpv4Addr_octets {first second third fourth : Nat} {rest : Str} (firstSmall : first < 256)
    (secondSmall : second < 256) (thirdSmall : third < 256) (fourthSmall : fourth < 256)
    (stops : ∀ char ∈ rest.head?, toDigit 10 char = none) :
    readIpv4Addr (Nat.toDigits 10 first ++ '.' :: (Nat.toDigits 10 second ++
        '.' :: (Nat.toDigits 10 third ++ '.' :: (Nat.toDigits 10 fourth ++ rest)))) =
      some (BitVec.ofNat 32 (((first * 256 + second) * 256 + third) * 256 + fourth), rest) := by
  have dotted (tail : Str) : ∀ char ∈ ('.' :: tail).head?, toDigit 10 char = none := by
    rintro char ⟨⟩
    decide
  rw [readIpv4Addr_eq]
  simp only [Reader.andThen, readOctet, readSeparator, readGivenChar, if_true, if_false, Nat.lt_irrefl,
    readNumber_octet firstSmall (dotted _), readNumber_octet secondSmall (dotted _),
    readNumber_octet thirdSmall (dotted _), readNumber_octet fourthSmall stops, Option.bind_some,
    Nat.zero_lt_succ]

/-- A written IPv4 address is read back and leaves the rest of the text. -/
theorem readIpv4Addr_written (address : BitVec 32) (rest : Str)
    (stops : ∀ char ∈ rest.head?, toDigit 10 char = none) :
    readIpv4Addr ((IpAddr.v4 address).written ++ rest) = some (address, rest) := by
  have below := fixedDigits_lt 256 (by decide) 4 address.toNat
  have value : digitsValue 256 0 (fixedDigits 256 4 address.toNat) = address.toNat :=
    digitsValue_fixedDigits address.isLt
  simp only [written, fixedDigits, List.nil_append, List.cons_append] at below value ⊢
  simp only [List.mem_cons, List.not_mem_nil, or_false, forall_eq_or_imp, forall_eq] at below
  obtain ⟨first, second, third, fourth⟩ := below
  have read := readIpv4Addr_octets first second third fourth stops
  simp only [digitsValue, List.foldl_cons, List.foldl_nil, Nat.zero_mul, Nat.zero_add] at value
  rw [value, BitVec.ofNat_toNat, BitVec.setWidth_eq] at read
  simpa [List.intercalate] using read

/-- A hexadecimal numeral has no dot. -/
theorem no_dot_of_hexadecimal (number : Nat) : '.' ∉ Nat.toDigits 16 number := by
  obtain ⟨digits, same, below, _⟩ := toDigits_eq_map (by decide : 1 < 16) number
  rw [same]
  intro member
  obtain ⟨digit, inside, dot⟩ := List.mem_map.mp member
  have small := below digit inside
  interval_cases digit <;> exact absurd dot (by decide)

/-- A group in front of a colon does not start an embedded IPv4 address. -/
theorem readIpv4Addr_group (group : Nat) (rest : Str) :
    readIpv4Addr (Nat.toDigits 16 group ++ ':' :: rest) = none := by
  rw [readIpv4Addr_local (by decide) (by decide), readIpv4Addr_of_no_dot (no_dot_of_hexadecimal group)]
  rfl

/-- Groups behind colons are read one after another. -/
theorem readGroups_colons {groups : List Nat} {index : Nat} {rest : Str} (later : 0 < index)
    (below : ∀ group ∈ groups, group < 65536)
    (stops : ∀ char ∈ rest.head?, toDigit 16 char = none) :
    readGroups groups.length index
        (groups.flatMap (fun group => ':' :: Nat.toDigits 16 group) ++ rest) =
      (groups, false, rest) := by
  induction groups generalizing index with
  | nil => rfl
  | cons group others ih =>
      have small := below group List.mem_cons_self
      have tail := ih (Nat.succ_pos index) fun other member => below other (List.mem_cons_of_mem _ member)
      have ends : ∀ char ∈ (others.flatMap (fun group => ':' :: Nat.toDigits 16 group) ++ rest).head?,
          toDigit 16 char = none := by
        cases others with
        | nil => exact stops
        | cons other more =>
            rintro char ⟨⟩
            decide
      have octets : (if 0 < others.length then readSeparator ':' index readIpv4Addr
          ((group :: others).flatMap (fun group => ':' :: Nat.toDigits 16 group) ++ rest) else none) =
            none := by
        cases others with
        | nil => rfl
        | cons other more =>
            simp [readSeparator, later, readGivenChar, readIpv4Addr_group]
      rw [List.length_cons, readGroups, octets]
      simp only [List.flatMap_cons, List.cons_append, List.append_assoc, readSeparator, later, if_true,
        readGivenChar, Option.bind_some, readNumber_group small ends, tail]

/-- Groups joined by colons are read from the start. -/
theorem readGroups_joined {group : Nat} {others : List Nat} {rest : Str}
    (below : ∀ other ∈ group :: others, other < 65536)
    (stops : ∀ char ∈ rest.head?, toDigit 16 char = none) :
    readGroups (others.length + 1) 0
        ([':'].intercalate ((group :: others).map (Nat.toDigits 16)) ++ rest) =
      (group :: others, false, rest) := by
  have small := below group List.mem_cons_self
  have tail := readGroups_colons Nat.zero_lt_one
    (fun other member => below other (List.mem_cons_of_mem _ member)) stops
  have joined : [':'].intercalate ((group :: others).map (Nat.toDigits 16)) ++ rest =
      Nat.toDigits 16 group ++ (others.flatMap (fun other => ':' :: Nat.toDigits 16 other) ++ rest) := by
    rw [List.map_cons, intercalate_cons_eq_flatMap, List.flatMap_map, List.append_assoc]
  have ends : ∀ char ∈ (others.flatMap (fun group => ':' :: Nat.toDigits 16 group) ++ rest).head?,
      toDigit 16 char = none := by
    cases others with
    | nil => exact stops
    | cons other more =>
        rintro char ⟨⟩
        decide
  have octets : (if 0 < others.length then readSeparator ':' 0 readIpv4Addr
      (Nat.toDigits 16 group ++ (others.flatMap (fun other => ':' :: Nat.toDigits 16 other) ++ rest))
        else none) = none := by
    cases others with
    | nil => rfl
    | cons other more => simp [readSeparator, readIpv4Addr_group]
  rw [joined, readGroups, octets]
  simp only [readSeparator, Nat.lt_irrefl, if_false, readNumber_group small ends, Nat.zero_add, tail]

/-- A written IPv6 address is read back and leaves the rest of the text. -/
theorem readIpv6Addr_written (address : BitVec 128) (rest : Str)
    (stops : ∀ char ∈ rest.head?, toDigit 16 char = none) :
    readIpv6Addr ((IpAddr.v6 address).written ++ rest) = some (address, rest) := by
  have below := fixedDigits_lt 65536 (by decide) 8 address.toNat
  have value : digitsValue 65536 0 (fixedDigits 65536 8 address.toNat) = address.toNat :=
    digitsValue_fixedDigits address.isLt
  have length := fixedDigits_length 65536 8 address.toNat
  simp only [written]
  generalize fixedDigits 65536 8 address.toNat = groups at *
  cases groups with
  | nil => exact absurd length (by decide)
  | cons group others =>
      have read := readGroups_joined below stops
      have eight : others.length + 1 = 8 := length
      have same : ofGroups (group :: others) = address := by
        change BitVec.ofNat 128 (digitsValue 65536 0 (group :: others)) = address
        rw [value, BitVec.ofNat_toNat, BitVec.setWidth_eq]
      rw [eight] at read
      rw [readIpv6Addr, read]
      dsimp only
      rw [if_pos length, same]

/-- Every address is read back from its text. -/
theorem parse_written (ip : IpAddr) : parse ip.written = some ip := by
  cases ip with
  | v4 address =>
      have read := readIpv4Addr_written address [] (by simp)
      rw [List.append_nil] at read
      simp [parse, readIpAddr, read]
  | v6 address =>
      have read := readIpv6Addr_written address [] (by simp)
      have length := fixedDigits_length 65536 8 address.toNat
      have dotted : readIpv4Addr (IpAddr.v6 address).written = none := by
        simp only [written]
        generalize fixedDigits 65536 8 address.toNat = groups at *
        match groups, length with
        | first :: second :: more, _ =>
            rw [List.map_cons, intercalate_cons_eq_flatMap, List.map_cons, List.flatMap_cons,
              List.cons_append]
            exact readIpv4Addr_group first _
      rw [List.append_nil] at read
      simp [parse, readIpAddr, dotted, read]

/-- The text of an address has no comma and no white space. -/
theorem written_solid (ip : IpAddr) :
    ip.written.all (fun char => !isWhitespace char && char ≠ ',') = true := by
  have numeral (radix : Nat) (base : 1 < radix) (small : radix ≤ 16) (number : Nat) :
      (Nat.toDigits radix number).all (fun char => !isWhitespace char && char ≠ ',') = true := by
    obtain ⟨digits, same, below, _⟩ := toDigits_eq_map base number
    rw [same, List.all_map, List.all_eq_true]
    intro digit member
    have inside : digit < 16 := by have := below digit member; omega
    interval_cases digit <;> decide
  cases ip with
  | v4 address =>
      rw [written, all_intercalate (by decide), List.all_map, List.all_eq_true]
      exact fun number _ => numeral 10 (by decide) (by decide) number
  | v6 address =>
      rw [written, all_intercalate (by decide), List.all_map, List.all_eq_true]
      exact fun number _ => numeral 16 (by decide) (by decide) number

end IpAddr

end HighperfServer
