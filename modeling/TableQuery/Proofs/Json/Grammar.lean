import TableQuery.Proofs.Json.Numeral
import TableQuery.Proofs.Json.Quoted
import TableQuery.Proofs.Query.Edit

set_option autoImplicit false

namespace TableQuery.Json

open Reader

/-- Blanks, which may stand between any two parts of a text. -/
def AreBlanks (cs : List Char) : Prop := ∀ c ∈ cs, isBlank c = true

inductive Spaced {α : Type} (part : List Char → α → Prop) : List Char → α → Prop
  | mk {blanks text : List Char} {a : α} (blank : AreBlanks blanks) (inside : part text a) :
      Spaced part (blanks ++ text) a

/-- What follows a part of a list: further parts, each after a comma, and the bracket that closes the list. -/
inductive Further {α : Type} (part : List Char → α → Prop) (close : Char) : List Char → List α → Prop
  | close {blanks : List Char} (blank : AreBlanks blanks) : Further part close (blanks ++ [close]) []
  | next {blanks text more : List Char} {a : α} {as : List α} (blank : AreBlanks blanks)
      (inside : Spaced part text a) (further : Further part close more as) :
      Further part close (blanks ++ ',' :: (text ++ more)) (a :: as)

/-- The parts of a list after its opening bracket, and the bracket that closes it. -/
inductive Listing {α : Type} (part : List Char → α → Prop) (close : Char) : List Char → List α → Prop
  | empty {blanks : List Char} (blank : AreBlanks blanks) : Listing part close (blanks ++ [close]) []
  | parts {text more : List Char} {a : α} {as : List α} (inside : Spaced part text a)
      (further : Further part close more as) : Listing part close (text ++ more) (a :: as)

/-- No blanks are needed before a part, nor anywhere else. -/
theorem Spaced.bare {α : Type} {part : List Char → α → Prop} {text : List Char} {a : α} (inside : part text a) :
    Spaced part text a :=
  @Spaced.mk _ _ [] _ _ nofun inside

theorem Further.last {α : Type} {part : List Char → α → Prop} {close : Char} : Further part close [close] [] :=
  @Further.close _ _ _ [] nofun

/-- A list of parts may follow a part and a comma. -/
theorem Listing.afterComma {α : Type} {part : List Char → α → Prop} {close : Char} {text : List Char} {a : α}
    {as : List α} (listing : Listing part close text (a :: as)) : Further part close (',' :: text) (a :: as) := by
  cases listing with
  | parts inside further => exact @Further.next _ _ _ [] _ _ _ _ nofun inside further

/-- A member of an object: a quoted key, a colon and a value. -/
inductive WritesMember (inner : List Char → Value → Prop) : List Char → String × Value → Prop
  | mk {quoted blanks text : List Char} {key : String} {v : Value} (spells : SpellsAll quoted key.toList)
      (blank : AreBlanks blanks) (inside : Spaced inner text v) :
      WritesMember inner ('"' :: (quoted ++ '"' :: (blanks ++ ':' :: text))) (key, v)

inductive WritesScalar (numeral : List Char → Number → Prop) : List Char → Value → Prop
  | null : WritesScalar numeral ['n', 'u', 'l', 'l'] .null
  | true : WritesScalar numeral ['t', 'r', 'u', 'e'] (.bool true)
  | false : WritesScalar numeral ['f', 'a', 'l', 's', 'e'] (.bool false)
  | string {quoted : List Char} {s : String} (spells : SpellsAll quoted s.toList) :
      WritesScalar numeral ('"' :: (quoted ++ ['"'])) (.string s)
  | number {text : List Char} {n : Number} (is : numeral text n) : WritesScalar numeral text (.number n)

/-- The text of an array or an object; of two members with one key the later stands. -/
inductive WritesCompound (inner : List Char → Value → Prop) : List Char → Value → Prop
  | array {text : List Char} {items : List Value} (listing : Listing inner ']' text items) :
      WritesCompound inner ('[' :: text) (.array items)
  | object {text : List Char} {members : List (String × Value)}
      (listing : Listing (WritesMember inner) '\x7d' text members) :
      WritesCompound inner ('\x7b' :: text) (.object (Members.ofList members))

/-- The text of a value in which arrays and objects nest at most so many levels deep, by what numerals stand
for. -/
def Writes (numeral : List Char → Number → Prop) : Nat → List Char → Value → Prop
  | 0 => WritesScalar numeral
  | depth + 1 => fun text v => WritesScalar numeral text v ∨ WritesCompound (Writes numeral depth) text v

def Numeral.Reads (text : List Char) (n : Number) : Prop :=
  ∃ m : Numeral, m.WellFormed ∧ text = m.text ∧ m.number = .ok n

section Blanks

theorem skipBlanks_append {blanks : List Char} (blank : AreBlanks blanks) (cs : List Char) :
    skipBlanks (blanks ++ cs) = skipBlanks cs :=
  List.dropWhile_append_of_pos blank

theorem skipBlanks_cons {c : Char} (solid : isBlank c = false) (cs : List Char) :
    skipBlanks (c :: cs) = c :: cs := by
  simp [skipBlanks, solid]

theorem skipBlanks_append_cons {blanks : List Char} (blank : AreBlanks blanks) {c : Char}
    (solid : isBlank c = false) (more rest : List Char) :
    skipBlanks (blanks ++ c :: more ++ rest) = c :: (more ++ rest) := by
  rw [List.append_assoc, skipBlanks_append blank, List.cons_append, skipBlanks_cons solid]

theorem exists_skipBlanks (cs : List Char) : ∃ blanks, AreBlanks blanks ∧ cs = blanks ++ skipBlanks cs :=
  ⟨cs.takeWhile isBlank, fun _ inside => List.mem_takeWhile_imp inside, List.takeWhile_append_dropWhile.symm⟩

theorem isEmpty_skipBlanks_iff {cs : List Char} : (skipBlanks cs).isEmpty = true ↔ AreBlanks cs := by
  rw [List.isEmpty_iff, skipBlanks, List.dropWhile_eq_nil_iff, AreBlanks]

theorem areBlanks_nil : AreBlanks [] := nofun

theorem AreBlanks.append {first second : List Char} (blank : AreBlanks first) (later : AreBlanks second) :
    AreBlanks (first ++ second) := by
  intro c inside
  rcases List.mem_append.mp inside with inside | inside
  · exact blank c inside
  · exact later c inside

end Blanks

/-- What may follow a value: nothing, or a character that does not go on with a numeral. -/
def Follows (rest : List Char) : Prop := ∀ c ∈ rest.head?, isBlank c = true ∨ c = ',' ∨ c = ']' ∨ c = '\x7d'

structure Takes {α : Type} (reader : Reader α) (part : List Char → α → Prop) : Prop where
  sound : ∀ {cs rest : List Char} {a : α}, reader cs = .ok (a, rest) →
    ∃ text, Spaced part text a ∧ cs = text ++ rest
  complete : ∀ {text rest : List Char} {a : α}, Spaced part text a → Follows rest →
    reader (text ++ rest) = .ok (a, rest)

/-- The texts of a grammar start with a character that is neither a blank nor a closing bracket. -/
def Begins {α : Type} (part : List Char → α → Prop) : Prop :=
  ∀ {text : List Char} {a : α}, part text a → ∃ c more, text = c :: more ∧ isBlank c = false ∧ c ≠ ']'

section Items

variable {α : Type} {reader : Reader α} {part : List Char → α → Prop}

theorem Spaced.after {blanks text : List Char} {a : α} (blank : AreBlanks blanks) (inside : Spaced part text a) :
    Spaced part (blanks ++ text) a := by
  cases inside with
  | mk first inside =>
    rw [← List.append_assoc]
    exact .mk (blank.append first) inside

theorem Spaced.length_pos (begins : Begins part) {text : List Char} {a : α} (inside : Spaced part text a) :
    0 < text.length := by
  cases inside with
  | mk blank inside =>
    obtain ⟨c, more, rfl, -⟩ := begins inside
    rw [List.length_append, List.length_cons]
    omega

/-- What is read after an item of an array is further items up to the closing bracket. -/
theorem exists_further_items (takes : Takes reader part) {fuel : Nat} {done items : List α} {cs rest : List Char}
    (reads : Reader.items reader fuel false done cs = .ok (items, rest)) :
    ∃ text later, Further part ']' text later ∧ cs = text ++ rest ∧ items = done.reverse ++ later := by
  induction fuel generalizing done cs with
  | zero => cases reads
  | succ fuel ih =>
    obtain ⟨blanks, blank, split⟩ := exists_skipBlanks cs
    unfold Reader.items at reads
    split at reads
    · cases reads
    case _ skipped =>
      cases reads
      refine ⟨blanks ++ [']'], [], .close blank, ?_, (List.append_nil _).symm⟩
      rw [split, skipped]
      simp
    case _ c after other skipped =>
      split at reads
      case _ comma =>
        obtain rfl : c = ',' := by simpa using comma
        obtain ⟨before, blankBefore, splitAfter⟩ := exists_skipBlanks after
        split at reads
        · cases reads
        · cases reads
        · obtain ⟨⟨a, more⟩, first, later⟩ := bind_eq_ok_iff.mp reads
          obtain ⟨text, inside, same⟩ := takes.sound first
          obtain ⟨further, as, listed, rfl, rfl⟩ := ih later
          refine ⟨blanks ++ ',' :: ((before ++ text) ++ further), a :: as,
            .next blank (inside.after blankBefore) listed, ?_, ?_⟩
          · rw [split, skipped, splitAfter, same]
            simp
          · simp
      case _ => cases reads

theorem exists_listing_items (takes : Takes reader part) {fuel : Nat} {items : List α} {cs rest : List Char}
    (reads : Reader.items reader fuel true [] cs = .ok (items, rest)) :
    ∃ text, Listing part ']' text items ∧ cs = text ++ rest := by
  cases fuel with
  | zero => cases reads
  | succ fuel =>
    obtain ⟨blanks, blank, split⟩ := exists_skipBlanks cs
    unfold Reader.items at reads
    split at reads
    · cases reads
    case _ skipped =>
      cases reads
      refine ⟨blanks ++ [']'], .empty blank, ?_⟩
      rw [split, skipped]
      simp
    case _ c after other skipped =>
      split at reads
      case _ comma => simp at comma
      case _ =>
        obtain ⟨⟨a, more⟩, first, later⟩ := bind_eq_ok_iff.mp reads
        obtain ⟨text, inside, same⟩ := takes.sound first
        obtain ⟨further, as, listed, rfl, rfl⟩ := exists_further_items takes later
        refine ⟨(blanks ++ text) ++ further, .parts (inside.after blank) listed, ?_⟩
        rw [split, skipped, same]
        simp

theorem Further.follows {close : Char} (closes : close = ']' ∨ close = '\x7d') {text : List Char} {as : List α}
    (further : Further part close text as) (rest : List Char) : Follows (text ++ rest) := by
  have first (blanks more : List Char) (blank : AreBlanks blanks) (c : Char)
      (allowed : c = ',' ∨ c = ']' ∨ c = '\x7d') : Follows (blanks ++ c :: more) := by
    intro d head
    cases blanks with
    | nil =>
      cases head
      exact .inr allowed
    | cons before blanks =>
      cases head
      exact .inl (blank d List.mem_cons_self)
  cases further with
  | close blank =>
    rw [List.append_assoc]
    exact first _ _ blank close (.inr closes)
  | next blank inside further =>
    rw [List.append_assoc]
    exact first _ _ blank ',' (.inl rfl)

theorem Takes.skipBlanks (takes : Takes reader part) (begins : Begins part) {text rest : List Char} {a : α}
    (inside : Spaced part text a) (follows : Follows rest) :
    ∃ c more, Reader.skipBlanks (text ++ rest) = c :: more ∧ c ≠ ']' ∧ reader (c :: more) = .ok (a, rest) := by
  cases inside with
  | mk blank inside =>
    obtain ⟨c, more, rfl, solid, noBracket⟩ := begins inside
    have reads := takes.complete (.bare inside) follows
    exact ⟨c, more ++ rest, skipBlanks_append_cons blank solid more rest, noBracket, reads⟩

theorem items_of_close {cs rest : List Char} (closed : Reader.skipBlanks cs = ']' :: rest) (fuel : Nat)
    (first : Bool) (done : List α) :
    Reader.items reader (fuel + 1) first done cs = .ok (done.reverse, rest) := by
  unfold Reader.items
  rw [closed]
  rfl

theorem items_of_comma {cs after more rest : List Char} {c : Char} {a : α}
    (comma : Reader.skipBlanks cs = ',' :: after) (next : Reader.skipBlanks after = c :: more)
    (noBracket : c ≠ ']') (reads : reader (c :: more) = .ok (a, rest)) (fuel : Nat) (done : List α) :
    Reader.items reader (fuel + 1) false done cs = Reader.items reader fuel false (a :: done) rest := by
  rw [Reader.items, comma]
  split
  case _ nothing => cases nothing
  case _ closes => exact absurd (List.cons.inj closes).1 (by decide)
  case _ starts =>
    cases starts
    rw [if_pos (by rfl), next]
    split
    case _ nothing => cases nothing
    case _ closes => exact absurd (List.cons.inj closes).1 noBracket
    case _ =>
      rw [reads]
      rfl

theorem items_of_first {cs more rest : List Char} {c : Char} {a : α} (begin : Reader.skipBlanks cs = c :: more)
    (noBracket : c ≠ ']') (reads : reader (c :: more) = .ok (a, rest)) (fuel : Nat) (done : List α) :
    Reader.items reader (fuel + 1) true done cs = Reader.items reader fuel false (a :: done) rest := by
  rw [Reader.items, begin]
  split
  case _ nothing => cases nothing
  case _ closes => exact absurd (List.cons.inj closes).1 noBracket
  case _ starts =>
    cases starts
    rw [if_neg (by simp), if_pos rfl, reads]
    rfl

/-- Further items are read up to the closing bracket. -/
theorem items_further (takes : Takes reader part) (begins : Begins part) {text : List Char} {later : List α}
    (further : Further part ']' text later) {fuel : Nat} (enough : text.length < fuel) (done : List α)
    (rest : List Char) :
    Reader.items reader fuel false done (text ++ rest) = .ok (done.reverse ++ later, rest) := by
  induction further generalizing fuel done with
  | @close blanks blank =>
    cases fuel with
    | zero => cases enough
    | succ fuel =>
      have closed : Reader.skipBlanks (blanks ++ [']'] ++ rest) = ']' :: rest :=
        skipBlanks_append_cons blank rfl [] rest
      rw [items_of_close closed, List.append_nil]
  | @next blanks text more a later blank inside further ih =>
    cases fuel with
    | zero => cases enough
    | succ fuel =>
      have follows := further.follows (.inl rfl) rest
      have shorter : more.length < fuel := by
        simp only [List.length_append, List.length_cons] at enough
        omega
      have comma : Reader.skipBlanks (blanks ++ ',' :: (text ++ more) ++ rest) =
          ',' :: (text ++ (more ++ rest)) := by
        rw [skipBlanks_append_cons blank rfl, List.append_assoc]
      obtain ⟨c, after, next, noBracket, reads⟩ := takes.skipBlanks begins inside follows
      rw [items_of_comma comma next noBracket reads, ih shorter]
      simp

/-- The items of an array are read up to the closing bracket. -/
theorem items_listing (takes : Takes reader part) (begins : Begins part) {text : List Char} {items : List α}
    (listing : Listing part ']' text items) {fuel : Nat} (enough : text.length < fuel) (rest : List Char) :
    Reader.items reader fuel true [] (text ++ rest) = .ok (items, rest) := by
  cases fuel with
  | zero => cases enough
  | succ fuel =>
    cases listing with
    | @empty blanks blank =>
      have closed : Reader.skipBlanks (blanks ++ [']'] ++ rest) = ']' :: rest :=
        skipBlanks_append_cons blank rfl [] rest
      exact items_of_close closed fuel true []
    | @parts text more a later inside further =>
      have follows := further.follows (.inl rfl) rest
      have shorter : more.length < fuel := by
        have present := inside.length_pos begins
        rw [List.length_append] at enough
        omega
      obtain ⟨c, after, next, noBracket, reads⟩ := takes.skipBlanks begins inside follows
      rw [List.append_assoc, items_of_first next noBracket reads, items_further takes begins further shorter]
      rfl

end Items

section Members

variable {reader : Reader Value} {inner : List Char → Value → Prop}

def memberReader (reader : Reader Value) (done : Members) (key : String) : Reader Members := fun rest => do
  let (v, rest) ← reader (← colon rest)
  pure (Members.insert key v done, rest)

def membersAfterQuote (reader : Reader Value) (fuel : Nat) (done : Members) : Reader Members := fun cs => do
  let (key, rest) ← stringRest cs
  let (done, rest) ← memberReader reader done key rest
  Reader.members (memberReader reader) fuel false done rest

theorem colon_eq_ok_iff {cs rest : List Char} :
    colon cs = .ok rest ↔ ∃ blanks, AreBlanks blanks ∧ cs = blanks ++ ':' :: rest := by
  constructor
  · intro reads
    obtain ⟨blanks, blank, split⟩ := exists_skipBlanks cs
    unfold colon at reads
    split at reads
    case _ skipped =>
      cases reads
      exact ⟨blanks, blank, by rw [split, skipped]⟩
    · cases reads
    · cases reads
  · rintro ⟨blanks, blank, rfl⟩
    rw [colon, skipBlanks_append blank]
    rfl

/-- What is read after the quote of a key is a member, and then the members after it. -/
theorem exists_member (takes : Takes reader inner) {fuel : Nat} {done : Members} {cs : List Char}
    {result : Members × List Char} (reads : membersAfterQuote reader fuel done cs = .ok result) :
    ∃ text key v more, WritesMember inner ('"' :: text) (key, v) ∧ cs = text ++ more ∧
      Reader.members (memberReader reader) fuel false (Members.insert key v done) more = .ok result := by
  obtain ⟨⟨key, afterKey⟩, quoted, afterQuoted⟩ := bind_eq_ok_iff.mp reads
  obtain ⟨⟨state, afterMember⟩, member, later⟩ := bind_eq_ok_iff.mp afterQuoted
  obtain ⟨afterColon, points, afterPoints⟩ := bind_eq_ok_iff.mp member
  obtain ⟨⟨v, afterValue⟩, value, put⟩ := bind_eq_ok_iff.mp afterPoints
  obtain ⟨quoted, rfl, spells⟩ := stringRest_eq_ok_iff.mp quoted
  obtain ⟨blanks, blank, rfl⟩ := colon_eq_ok_iff.mp points
  obtain ⟨text, inside, rfl⟩ := takes.sound value
  cases put
  exact ⟨_, key, v, afterMember, .mk spells blank inside, by simp, later⟩

theorem membersAfterQuote_append (takes : Takes reader inner) {text more : List Char} {key : String} {v : Value}
    (member : WritesMember inner ('"' :: text) (key, v)) (follows : Follows more) (fuel : Nat) (done : Members) :
    membersAfterQuote reader fuel done (text ++ more) =
      Reader.members (memberReader reader) fuel false (Members.insert key v done) more := by
  cases member with
  | @mk quoted blanks valueText _ _ spells blank inside =>
    have quotes : stringRest ((quoted ++ '"' :: (blanks ++ ':' :: valueText)) ++ more) =
        .ok (key, blanks ++ ':' :: (valueText ++ more)) :=
      stringRest_eq_ok_iff.mpr ⟨quoted, by simp, spells⟩
    have points : colon (blanks ++ ':' :: (valueText ++ more)) = .ok (valueText ++ more) :=
      colon_eq_ok_iff.mpr ⟨blanks, blank, rfl⟩
    have reads := takes.complete inside follows
    unfold membersAfterQuote memberReader
    rw [quotes]
    change (colon _ >>= _) >>= _ = _
    rw [points]
    change (reader _ >>= _) >>= _ = _
    rw [reads]
    rfl

def insertAll (done : Members) (pairs : List (String × Value)) : Members :=
  pairs.foldl (fun members pair => Members.insert pair.1 pair.2 members) done

/-- What is read after a member of an object is further members up to the closing brace. -/
theorem exists_further_members (takes : Takes reader inner) {fuel : Nat} {done members : Members}
    {cs rest : List Char}
    (reads : Reader.members (memberReader reader) fuel false done cs = .ok (members, rest)) :
    ∃ text pairs, Further (WritesMember inner) '\x7d' text pairs ∧ cs = text ++ rest ∧
      members = insertAll done pairs := by
  induction fuel generalizing done cs with
  | zero => cases reads
  | succ fuel ih =>
    obtain ⟨blanks, blank, split⟩ := exists_skipBlanks cs
    unfold Reader.members at reads
    split at reads
    · cases reads
    case _ skipped =>
      cases reads
      refine ⟨blanks ++ ['\x7d'], [], .close blank, ?_, rfl⟩
      rw [split, skipped]
      simp
    case _ c after other skipped =>
      split at reads
      case _ comma =>
        obtain rfl : c = ',' := by simpa using comma
        obtain ⟨before, blankBefore, splitAfter⟩ := exists_skipBlanks after
        split at reads
        · cases reads
        case _ quoted =>
          obtain ⟨text, key, v, more, member, same, later⟩ := exists_member takes reads
          obtain ⟨further, pairs, listed, rfl, rfl⟩ := ih later
          refine ⟨blanks ++ ',' :: ((before ++ '"' :: text) ++ further), (key, v) :: pairs,
            .next blank (.mk blankBefore member) listed, ?_, rfl⟩
          rw [split, skipped, splitAfter, quoted, same]
          simp
        · cases reads
        · cases reads
      case _ => cases reads

theorem exists_listing_members (takes : Takes reader inner) {fuel : Nat} {members : Members}
    {cs rest : List Char}
    (reads : Reader.members (memberReader reader) fuel true [] cs = .ok (members, rest)) :
    ∃ text pairs, Listing (WritesMember inner) '\x7d' text pairs ∧ cs = text ++ rest ∧
      members = Members.ofList pairs := by
  cases fuel with
  | zero => cases reads
  | succ fuel =>
    obtain ⟨blanks, blank, split⟩ := exists_skipBlanks cs
    unfold Reader.members at reads
    split at reads
    · cases reads
    case _ skipped =>
      cases reads
      refine ⟨blanks ++ ['\x7d'], [], .empty blank, ?_, rfl⟩
      rw [split, skipped]
      simp
    case _ c after other skipped =>
      split at reads
      case _ comma => simp at comma
      case _ =>
        split at reads
        · split at reads
          case _ quoted =>
            obtain ⟨text, key, v, more, member, same, later⟩ := exists_member takes reads
            obtain ⟨further, pairs, listed, rfl, rfl⟩ := exists_further_members takes later
            refine ⟨(blanks ++ '"' :: text) ++ further, (key, v) :: pairs, .parts (.mk blank member) listed, ?_, rfl⟩
            rw [split, skipped, quoted, same]
            simp
          · cases reads
        · cases reads

theorem members_of_close {cs rest : List Char} (closed : Reader.skipBlanks cs = '\x7d' :: rest) (fuel : Nat)
    (first : Bool) (done : Members) :
    Reader.members (memberReader reader) (fuel + 1) first done cs = .ok (done, rest) := by
  rw [Reader.members, closed]
  rfl

theorem members_of_comma {cs after more : List Char} (comma : Reader.skipBlanks cs = ',' :: after)
    (next : Reader.skipBlanks after = '"' :: more) (fuel : Nat) (done : Members) :
    Reader.members (memberReader reader) (fuel + 1) false done cs = membersAfterQuote reader fuel done more := by
  rw [Reader.members, comma]
  split
  case _ nothing => cases nothing
  case _ closes => exact absurd (List.cons.inj closes).1 (by decide)
  case _ starts =>
    cases starts
    rw [if_pos (by rfl), next]
    rfl

theorem members_of_first {cs more : List Char} (begin : Reader.skipBlanks cs = '"' :: more) (fuel : Nat)
    (done : Members) :
    Reader.members (memberReader reader) (fuel + 1) true done cs = membersAfterQuote reader fuel done more := by
  rw [Reader.members, begin]
  rfl

/-- A member is read from the quote that opens its key. -/
theorem exists_quote {text : List Char} {member : String × Value}
    (inside : Spaced (WritesMember inner) text member) :
    ∃ body, WritesMember inner ('"' :: body) member ∧ 0 < text.length ∧
      ∀ rest, Reader.skipBlanks (text ++ rest) = '"' :: (body ++ rest) := by
  cases inside with
  | @mk blanks text _ blank inside =>
    have first : ∃ body, text = '"' :: body := by
      cases inside with
      | mk => exact ⟨_, rfl⟩
    obtain ⟨body, rfl⟩ := first
    refine ⟨body, inside, ?_, skipBlanks_append_cons blank rfl body⟩
    rw [List.length_append, List.length_cons]
    omega

/-- Further members are read up to the closing brace. -/
theorem members_further (takes : Takes reader inner) {text : List Char} {pairs : List (String × Value)}
    (further : Further (WritesMember inner) '\x7d' text pairs) {fuel : Nat} (enough : text.length < fuel)
    (done : Members) (rest : List Char) :
    Reader.members (memberReader reader) fuel false done (text ++ rest) = .ok (insertAll done pairs, rest) := by
  induction further generalizing fuel done with
  | @close blanks blank =>
    cases fuel with
    | zero => cases enough
    | succ fuel =>
      have closed : Reader.skipBlanks (blanks ++ ['\x7d'] ++ rest) = '\x7d' :: rest :=
        skipBlanks_append_cons blank rfl [] rest
      exact members_of_close closed fuel false done
  | @next blanks text more member later blank inside further ih =>
    cases fuel with
    | zero => cases enough
    | succ fuel =>
      have follows := further.follows (.inr rfl) rest
      have shorter : more.length < fuel := by
        simp only [List.length_append, List.length_cons] at enough
        omega
      have comma : Reader.skipBlanks (blanks ++ ',' :: (text ++ more) ++ rest) =
          ',' :: (text ++ (more ++ rest)) := by
        rw [skipBlanks_append_cons blank rfl, List.append_assoc]
      obtain ⟨body, writes, -, next⟩ := exists_quote inside
      rw [members_of_comma comma (next _), membersAfterQuote_append takes writes follows, ih shorter]
      rfl

/-- The members of an object are read up to the closing brace. -/
theorem members_listing (takes : Takes reader inner) {text : List Char} {pairs : List (String × Value)}
    (listing : Listing (WritesMember inner) '\x7d' text pairs) {fuel : Nat} (enough : text.length < fuel)
    (rest : List Char) :
    Reader.members (memberReader reader) fuel true [] (text ++ rest) = .ok (Members.ofList pairs, rest) := by
  cases fuel with
  | zero => cases enough
  | succ fuel =>
    cases listing with
    | @empty blanks blank =>
      have closed : Reader.skipBlanks (blanks ++ ['\x7d'] ++ rest) = '\x7d' :: rest :=
        skipBlanks_append_cons blank rfl [] rest
      exact members_of_close closed fuel true []
    | @parts text more member later inside further =>
      have follows := further.follows (.inr rfl) rest
      obtain ⟨body, writes, present, next⟩ := exists_quote inside
      have shorter : more.length < fuel := by
        rw [List.length_append] at enough
        omega
      rw [List.append_assoc, members_of_first (next _), membersAfterQuote_append takes writes follows,
        members_further takes further shorter]
      rfl

end Members

section Value

theorem word_eq_ok_iff {letters cs rest : List Char} : word letters cs = .ok rest ↔ cs = letters ++ rest := by
  induction letters generalizing cs with
  | nil => simp [word]
  | cons w ws ih =>
    cases cs with
    | nil => simp [word, refuse]
    | cons c cs =>
      by_cases same : w = c
      · simp [word, same, ih]
      · simp [word, same, refuse, Ne.symm same]

theorem Follows.stops {rest : List Char} (follows : Follows rest) (m : Numeral) : m.Stops rest := by
  have solid (c : Char) (head : c ∈ rest.head?) :
      Text.isDigit c = false ∧ (c ≠ 'e' ∧ c ≠ 'E') ∧ c ≠ '.' := by
    rcases follows c head with blank | rfl | rfl | rfl
    · simp only [isBlank, Bool.or_eq_true, beq_iff_eq, or_assoc] at blank
      rcases blank with rfl | rfl | rfl | rfl
      all_goals decide
    all_goals decide
  have digit : EndsDigits rest := fun c head => (solid c head).1
  refine ⟨digit, ?_, fun _ _ c head => (solid c head).2.2⟩
  cases m.exponent with
  | none => exact fun c head => (solid c head).2.1
  | some e => exact digit

theorem Numeral.exists_body_eq_cons {m : Numeral} (wellFormed : m.WellFormed) :
    ∃ c more, m.body = c :: more ∧ Text.isDigit c = true := by
  obtain ⟨present, digits⟩ := wellFormed.whole
  unfold body
  cases whole : m.whole with
  | nil => exact absurd whole present
  | cons c more => exact ⟨c, _, rfl, digits c (by rw [whole]; exact List.mem_cons_self)⟩

theorem Numeral.exists_text_eq_cons {m : Numeral} (wellFormed : m.WellFormed) :
    ∃ c more, m.text = c :: more ∧ (c = '-' ∨ Text.isDigit c = true) := by
  obtain ⟨c, more, same, digit⟩ := m.exists_body_eq_cons wellFormed
  unfold text
  cases m.negative with
  | true => exact ⟨'-', m.body, rfl, .inl rfl⟩
  | false => exact ⟨c, more, same, .inr digit⟩

/-- A digit is neither a blank nor a closing bracket. -/
theorem solid_of_isDigit {c : Char} (digit : Text.isDigit c = true) : isBlank c = false ∧ c ≠ ']' := by
  constructor
  · by_contra blank
    rw [Bool.not_eq_false] at blank
    simp only [isBlank, Bool.or_eq_true, beq_iff_eq, or_assoc] at blank
    rcases blank with rfl | rfl | rfl | rfl
    all_goals cases digit
  · rintro rfl
    cases digit

theorem begins_writes (depth : Nat) : Begins (Writes Numeral.Reads depth) := by
  have scalar : Begins (WritesScalar Numeral.Reads) := by
    intro text v writes
    cases writes with
    | null => exact ⟨'n', _, rfl, by decide⟩
    | true => exact ⟨'t', _, rfl, by decide⟩
    | false => exact ⟨'f', _, rfl, by decide⟩
    | string spells => exact ⟨'"', _, rfl, by decide⟩
    | number is =>
      obtain ⟨m, wellFormed, rfl, value⟩ := is
      obtain ⟨c, more, same, minus | digit⟩ := m.exists_text_eq_cons wellFormed
      · exact ⟨c, more, same, by rw [minus]; decide⟩
      · exact ⟨c, more, same, solid_of_isDigit digit⟩
  cases depth with
  | zero => exact fun _ _ writes => scalar writes
  | succ depth =>
    intro text v writes
    rcases writes with writes | writes
    · exact scalar writes
    · cases writes with
      | array listing => exact ⟨'[', _, rfl, by decide⟩
      | object listing => exact ⟨'\x7b', _, rfl, by decide⟩

/-- A scalar may stand at any depth. -/
theorem writes_of_scalar {numeral : List Char → Number → Prop} {text : List Char} {v : Value}
    (scalar : WritesScalar numeral text v) (depth : Nat) : Writes numeral depth text v := by
  cases depth with
  | zero => exact scalar
  | succ depth => exact .inl scalar

theorem exists_numeral {negative : Bool} {cs rest : List Char} {n : Number}
    (reads : number negative cs = .ok (n, rest)) :
    ∃ text, Numeral.Reads text n ∧ (if negative then '-' :: cs else cs) = text ++ rest := by
  obtain ⟨m, wellFormed, rfl, -, rfl, value⟩ := number_eq_ok_iff.mp reads
  refine ⟨m.text, ⟨m, wellFormed, rfl, value⟩, ?_⟩
  unfold Numeral.text
  split_ifs
  · rfl
  · rfl

theorem value_sound {depth : Nat}
    (inner : ∀ less, depth = less + 1 → Takes (value less) (Writes Numeral.Reads less))
    {cs rest : List Char} {v : Value} (reads : value depth cs = .ok (v, rest)) :
    ∃ text, Spaced (Writes Numeral.Reads depth) text v ∧ cs = text ++ rest := by
  obtain ⟨blanks, blank, split⟩ := exists_skipBlanks cs
  -- It is enough to find the text after the blanks.
  suffices solid : ∃ text, Writes Numeral.Reads depth text v ∧ skipBlanks cs = text ++ rest by
    obtain ⟨text, writes, same⟩ := solid
    refine ⟨blanks ++ text, .mk blank writes, ?_⟩
    rw [split, same, List.append_assoc]
  have scalar {text : List Char} (is : WritesScalar Numeral.Reads text v) (same : skipBlanks cs = text ++ rest) :
      ∃ text, Writes Numeral.Reads depth text v ∧ skipBlanks cs = text ++ rest :=
    ⟨text, writes_of_scalar is depth, same⟩
  have ofWord {letters after : List Char} {w : Value} (writes : WritesScalar Numeral.Reads letters w)
      (starts : skipBlanks cs = after) (reads : (word letters after).map (w, ·) = .ok (v, rest)) :
      ∃ text, Writes Numeral.Reads depth text v ∧ skipBlanks cs = text ++ rest := by
    obtain ⟨more, found, same⟩ := map_eq_ok_iff.mp reads
    cases same
    exact scalar writes (starts.trans (word_eq_ok_iff.mp found))
  have ofNumeral {negative : Bool} {after : List Char}
      (starts : skipBlanks cs = if negative then '-' :: after else after)
      (reads : (number negative after).map (Prod.map Value.number id) = .ok (v, rest)) :
      ∃ text, Writes Numeral.Reads depth text v ∧ skipBlanks cs = text ++ rest := by
    obtain ⟨⟨n, more⟩, digits, same⟩ := map_eq_ok_iff.mp reads
    cases same
    obtain ⟨text, is, whole⟩ := exists_numeral digits
    exact scalar (.number is) (starts.trans whole)
  unfold value at reads
  split at reads
  · cases reads
  case _ after skipped => exact ofWord .null skipped reads
  case _ after skipped => exact ofWord .true skipped reads
  case _ after skipped => exact ofWord .false skipped reads
  case _ after skipped =>
    obtain ⟨⟨s, more⟩, quoted, same⟩ := map_eq_ok_iff.mp reads
    cases same
    obtain ⟨text, rfl, spells⟩ := stringRest_eq_ok_iff.mp quoted
    exact scalar (.string spells) (by rw [skipped]; simp)
  case _ after skipped => exact @ofNumeral true after skipped reads
  case _ after skipped =>
    cases depth with
    | zero => cases reads
    | succ depth =>
      obtain ⟨⟨items, more⟩, listed, same⟩ := map_eq_ok_iff.mp reads
      cases same
      obtain ⟨text, listing, rfl⟩ := exists_listing_items (inner depth rfl) listed
      exact ⟨'[' :: text, .inr (.array listing), skipped⟩
  case _ after skipped =>
    cases depth with
    | zero => cases reads
    | succ depth =>
      obtain ⟨⟨members, more⟩, listed, same⟩ := map_eq_ok_iff.mp reads
      cases same
      obtain ⟨text, pairs, listing, rfl, rfl⟩ := exists_listing_members (inner depth rfl) listed
      exact ⟨'\x7b' :: text, .inr (.object listing), skipped⟩
  case _ skipped =>
    split at reads
    · exact @ofNumeral false _ skipped reads
    · cases reads

theorem value_blanks {blanks : List Char} (blank : AreBlanks blanks) (depth : Nat) (cs : List Char) :
    value depth (blanks ++ cs) = value depth cs := by
  conv_lhs => unfold value
  conv_rhs => unfold value
  rw [skipBlanks_append blank]

theorem value_of_isDigit {c : Char} (digit : Text.isDigit c = true) (depth : Nat) (cs : List Char) :
    value depth (c :: cs) = (number false (c :: cs)).map (Prod.map Value.number id) := by
  have different {letter : Char} (none : Text.isDigit letter = false) {rest : List Char}
      (starts : c :: cs = letter :: rest) : False := by
    cases starts
    rw [digit] at none
    cases none
  unfold value
  rw [skipBlanks_cons (solid_of_isDigit digit).1]
  split
  case _ nothing => cases nothing
  case _ starts => exact (different rfl starts).elim
  case _ starts => exact (different rfl starts).elim
  case _ starts => exact (different rfl starts).elim
  case _ starts => exact (different rfl starts).elim
  case _ starts => exact (different rfl starts).elim
  case _ starts => exact (different rfl starts).elim
  case _ starts => exact (different rfl starts).elim
  case _ starts =>
    cases starts
    rw [if_pos digit]
    rfl

theorem value_scalar {text rest : List Char} {v : Value} (writes : WritesScalar Numeral.Reads text v)
    (follows : Follows rest) (depth : Nat) : value depth (text ++ rest) = .ok (v, rest) := by
  cases writes with
  | null =>
    unfold value
    rfl
  | true =>
    unfold value
    rfl
  | false =>
    unfold value
    rfl
  | @string quoted s spells =>
    have reads : stringRest (quoted ++ ['"'] ++ rest) = .ok (s, rest) :=
      stringRest_eq_ok_iff.mpr ⟨quoted, by simp, spells⟩
    have step : value depth ('"' :: (quoted ++ ['"']) ++ rest) =
        (stringRest (quoted ++ ['"'] ++ rest)).map (Prod.map Value.string id) := by
      unfold value
      rfl
    rw [step, reads]
    rfl
  | @number text n is =>
    obtain ⟨m, wellFormed, rfl, same⟩ := is
    have reads : number m.negative (m.body ++ rest) = .ok (n, rest) :=
      number_eq_ok_iff.mpr ⟨m, wellFormed, rfl, follows.stops m, rfl, same⟩
    have step : value depth (m.text ++ rest) =
        (number m.negative (m.body ++ rest)).map (Prod.map Value.number id) := by
      cases minus : m.negative with
      | true =>
        have text : m.text = '-' :: m.body := by rw [Numeral.text, minus, if_pos rfl]
        rw [text]
        unfold value
        rfl
      | false =>
        have text : m.text = m.body := by rw [Numeral.text, minus, if_neg Bool.false_ne_true]
        obtain ⟨c, more, same, digit⟩ := m.exists_body_eq_cons wellFormed
        rw [text, same]
        exact value_of_isDigit digit depth (more ++ rest)
    rw [step, reads]
    rfl

theorem value_compound {depth : Nat} (takes : Takes (value depth) (Writes Numeral.Reads depth))
    {text : List Char} {v : Value} (writes : WritesCompound (Writes Numeral.Reads depth) text v)
    (rest : List Char) : value (depth + 1) (text ++ rest) = .ok (v, rest) := by
  cases writes with
  | @array text values listing =>
    have enough : text.length < (text ++ rest).length + 1 := by
      rw [List.length_append]
      omega
    have step : value (depth + 1) ('[' :: text ++ rest) =
        (items (value depth) ((text ++ rest).length + 1) true [] (text ++ rest)).map
          (Prod.map Value.array id) := rfl
    rw [step, items_listing takes (begins_writes depth) listing enough]
    rfl
  | @object text pairs listing =>
    have enough : text.length < (text ++ rest).length + 1 := by
      rw [List.length_append]
      omega
    have step : value (depth + 1) ('\x7b' :: text ++ rest) =
        (members (memberReader (value depth)) ((text ++ rest).length + 1) true [] (text ++ rest)).map
          (Prod.map Value.object id) := rfl
    rw [step, members_listing takes listing enough]
    rfl

theorem takes_value (depth : Nat) : Takes (value depth) (Writes Numeral.Reads depth) := by
  induction depth with
  | zero =>
    have none (less : Nat) (same : 0 = less + 1) : Takes (value less) (Writes Numeral.Reads less) := nomatch same
    refine ⟨value_sound none, ?_⟩
    intro _ rest _ spaced follows
    cases spaced with
    | mk blank writes =>
      rw [List.append_assoc, value_blanks blank]
      exact value_scalar writes follows 0
  | succ depth ih =>
    have inner (less : Nat) (same : depth + 1 = less + 1) : Takes (value less) (Writes Numeral.Reads less) := by
      cases same
      exact ih
    refine ⟨value_sound inner, ?_⟩
    intro _ rest _ spaced follows
    cases spaced with
    | mk blank writes =>
      rw [List.append_assoc, value_blanks blank]
      rcases writes with writes | writes
      · exact value_scalar writes follows (depth + 1)
      · exact value_compound ih writes rest

end Value

def IsTextOf {α : Type} (part : List Char → α → Prop) (text : String) (a : α) : Prop :=
  ∃ body after, Spaced part body a ∧ AreBlanks after ∧ text.toList = body ++ after

theorem AreBlanks.follows {blanks : List Char} (blank : AreBlanks blanks) : Follows blanks := by
  intro c head
  exact .inl (blank c (List.mem_of_mem_head? head))

/-- A whole text is read where it is a text of the grammar that its reader takes. -/
theorem whole_eq_ok_iff {α : Type} {reader : Reader α} {part : List Char → α → Prop} (takes : Takes reader part)
    {text : String} {a : α} : whole reader text = .ok a ↔ IsTextOf part text a := by
  constructor
  · intro reads
    obtain ⟨⟨found, rest⟩, first, last⟩ := bind_eq_ok_iff.mp reads
    obtain ⟨body, spaced, split⟩ := takes.sound first
    by_cases empty : (skipBlanks rest).isEmpty = true
    · simp only [empty, ↓reduceIte] at last
      cases last
      exact ⟨body, rest, spaced, isEmpty_skipBlanks_iff.mp empty, split⟩
    · simp only [empty] at last
      cases last
  · rintro ⟨body, after, spaced, blank, split⟩
    have reads := takes.complete spaced blank.follows
    have empty := isEmpty_skipBlanks_iff.mpr blank
    unfold whole
    rw [split, reads]
    change (if (skipBlanks after).isEmpty = true then pure a else refuse .trailingText) = _
    rw [if_pos empty]
    rfl

/-- A text is parsed where it writes a value that is not nested too deep, and for this value. -/
theorem parse_eq_ok_iff {text : String} {v : Value} :
    parse text = .ok v ↔ IsTextOf (Writes Numeral.Reads maxDepth) text v :=
  whole_eq_ok_iff (takes_value maxDepth)

section Sequence

end Sequence

section Depth

end Depth

end TableQuery.Json
