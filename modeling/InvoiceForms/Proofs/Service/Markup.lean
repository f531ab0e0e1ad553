import InvoiceForms.Service.Markup

/-!
# Reading markup

A reader of a page finds its tags: what stands between angle brackets, without the values between quotes
in there. An angle bracket that is not part of a tag makes the page unreadable. Data that is escaped is
passed over, in text and in such values, so the tags of a page are those of its markup, and what looks
like an entity is one.
-/

namespace InvoiceForms

namespace Markup

/-- Where the reader of a page is: in text, in a tag, or in a value between quotes in a tag, with what has
been read of the tag. -/
inductive Place
  | text
  | tag (read : List Char)
  | value (quote : Char) (read : List Char)
deriving DecidableEq

/-- Reads a character: the tag that ends there, if one does, and the place behind it. -/
def Place.next : Place → Char → Option (List String × Place)
  | text, c => if c = '>' then none else some ([], if c = '<' then tag [] else text)
  | tag read, c =>
    if c = '>' then some ([String.ofList read], text)
    else if c = '<' then none
    else some ([], if c = '"' ∨ c = '\'' then value c read else tag (read ++ [c]))
  | value quote read, c =>
    if c = '<' ∨ c = '>' then none
    else some ([], if c = quote then tag read else value quote read)

/-- Reads characters: the tags that end there, and the place behind them. -/
def scan : Place → List Char → Option (List String × Place)
  | place, [] => some ([], place)
  | place, c :: cs => do
    let (ended, next) ← place.next c
    let (tags, last) ← scan next cs
    return (ended ++ tags, last)

/-- The tags of a page, if it can be read. -/
def tags (page : String) : Option (List String) :=
  match scan .text page.toList with
  | some (tags, .text) => some tags
  | _ => none

theorem scan_cons {place next last : Place} {c : Char} {cs : List Char} {ended tags : List String}
    (first : place.next c = some (ended, next)) (rest : scan next cs = some (tags, last)) :
    scan place (c :: cs) = some (ended ++ tags, last) := by
  unfold scan
  rw [first]
  dsimp only [Option.bind_eq_bind, Option.bind_some]
  rw [rest]
  rfl

/-- Characters are read one part after the other. -/
theorem scan_append {place middle last : Place} {cs ds : List Char} {tags tags' : List String}
    (first : scan place cs = some (tags, middle)) (second : scan middle ds = some (tags', last)) :
    scan place (cs ++ ds) = some (tags ++ tags', last) := by
  induction cs generalizing place tags with
  | nil =>
    cases first
    exact second
  | cons c cs ih =>
    obtain ⟨⟨ended, next⟩, here, rest⟩ := Option.bind_eq_some_iff.mp first
    obtain ⟨⟨more, last'⟩, there, same⟩ := Option.bind_eq_some_iff.mp rest
    cases same
    rw [List.cons_append, List.append_assoc]
    exact scan_cons here (ih there)

/-- Characters that leave the place are passed over. -/
theorem scan_of_stays {place : Place} {cs : List Char}
    (stays : ∀ c ∈ cs, place.next c = some ([], place)) : scan place cs = some ([], place) := by
  induction cs with
  | nil => rfl
  | cons c cs ih =>
    exact scan_cons (stays c List.mem_cons_self) (ih fun d member => stays d (List.mem_cons_of_mem c member))

/-- Whether data may stand at a place: in text, or in a value between quotes. -/
def Place.takesData : Place → Bool
  | text => true
  | tag _ => false
  | value quote _ => quote = '"' ∨ quote = '\''

/-- The entities of pages. -/
def entities : List (List Char) :=
  ["amp;", "lt;", "gt;", "#39;", "#34;", "middot;", "#10003;"].map String.toList

/-- Whether every ampersand is the start of an entity. -/
def onlyEntities : List Char → Bool
  | [] => true
  | c :: cs => (c ≠ '&' || entities.any (·.isPrefixOf cs)) && onlyEntities cs

theorem onlyEntities_append {cs ds : List Char} (first : onlyEntities cs = true)
    (second : onlyEntities ds = true) : onlyEntities (cs ++ ds) = true := by
  induction cs with
  | nil => exact second
  | cons c cs ih =>
    simp only [onlyEntities, Bool.and_eq_true, Bool.or_eq_true, List.any_eq_true] at first
    obtain ⟨here, rest⟩ := first
    simp only [List.cons_append, onlyEntities, Bool.and_eq_true, Bool.or_eq_true, List.any_eq_true]
    refine ⟨here.imp_right ?_, ih rest⟩
    rintro ⟨entity, known, starts⟩
    rw [List.isPrefixOf_iff_prefix] at starts
    exact ⟨entity, known, List.isPrefixOf_iff_prefix.mpr (starts.trans (List.prefix_append cs ds))⟩

/-- Replaces the entities of data by what they stand for. -/
def readEntities : List Char → List Char
  | '&' :: 'a' :: 'm' :: 'p' :: ';' :: cs => '&' :: readEntities cs
  | '&' :: 'l' :: 't' :: ';' :: cs => '<' :: readEntities cs
  | '&' :: 'g' :: 't' :: ';' :: cs => '>' :: readEntities cs
  | '&' :: '#' :: '3' :: '9' :: ';' :: cs => '\'' :: readEntities cs
  | '&' :: '#' :: '3' :: '4' :: ';' :: cs => '"' :: readEntities cs
  | c :: cs => c :: readEntities cs
  | [] => []

/-- The characters that data is escaped for. -/
def special : List Char := ['&', '<', '>', '\'', '"']

/-- The entity of a character is a known one that stands for it; others stay as they are. -/
theorem escapeChar_cases (c : Char) :
    (∃ entity ∈ entities, escapeChar c = '&' :: entity ∧ entity.all (fun d => d ∉ special) = true ∧
      ∀ cs, readEntities ('&' :: (entity ++ cs)) = c :: readEntities cs) ∨
    c ∉ special ∧ escapeChar c = [c] := by
  by_cases plain : c ∈ special
  · left
    simp only [special, List.mem_cons, List.not_mem_nil, or_false] at plain
    rcases plain with rfl | rfl | rfl | rfl | rfl
    · exact ⟨"amp;".toList, by decide, by decide, by decide, fun cs => rfl⟩
    · exact ⟨"lt;".toList, by decide, by decide, by decide, fun cs => rfl⟩
    · exact ⟨"gt;".toList, by decide, by decide, by decide, fun cs => rfl⟩
    · exact ⟨"#39;".toList, by decide, by decide, by decide, fun cs => rfl⟩
    · exact ⟨"#34;".toList, by decide, by decide, by decide, fun cs => rfl⟩
  · refine .inr ⟨plain, ?_⟩
    simp only [special, List.mem_cons, List.not_mem_nil, or_false, not_or] at plain
    obtain ⟨amp, lt, gt, single, double⟩ := plain
    rw [escapeChar, if_neg amp, if_neg lt, if_neg gt, if_neg single, if_neg double]

theorem toList_escape (s : String) : (escape s).toList = s.toList.flatMap escapeChar :=
  String.toList_ofList

/-- What is special does not appear in escaped data, but for the ampersands of entities. -/
theorem eq_amp_of_mem_escape {s : String} {c : Char} (inside : c ∈ (escape s).toList)
    (other : c ∈ special) : c = '&' := by
  rw [toList_escape, List.mem_flatMap] at inside
  obtain ⟨d, -, member⟩ := inside
  rcases escapeChar_cases d with ⟨entity, -, escaped, quiet, -⟩ | ⟨plain, same⟩
  · rw [escaped] at member
    rcases List.mem_cons.mp member with first | later
    · exact first
    · exact absurd other (by simpa using List.all_eq_true.mp quiet c later)
  · rw [same] at member
    obtain rfl := List.mem_singleton.mp member
    exact absurd other plain

/-- All ampersands in escaped data are those of entities. -/
theorem onlyEntities_escape (s : String) : onlyEntities (escape s).toList = true := by
  rw [toList_escape]
  induction s.toList with
  | nil => rfl
  | cons c cs ih =>
    rw [List.flatMap_cons]
    refine onlyEntities_append ?_ ih
    rcases escapeChar_cases c with ⟨entity, known, escaped, -, -⟩ | ⟨plain, same⟩
    · have all : ∀ entity ∈ entities, onlyEntities ('&' :: entity) = true := by decide
      rw [escaped]
      exact all entity known
    · have other : c ≠ '&' := by
        rintro rfl
        exact plain (by decide)
      simp [same, onlyEntities, other]

/-- Escaped data says what the data says. -/
theorem readEntities_escape (s : String) : readEntities (escape s).toList = s.toList := by
  rw [toList_escape]
  induction s.toList with
  | nil => rfl
  | cons c cs ih =>
    rw [List.flatMap_cons]
    rcases escapeChar_cases c with ⟨entity, -, escaped, -, reads⟩ | ⟨plain, same⟩
    · rw [escaped, List.cons_append, reads, ih]
    · have other : c ≠ '&' := by
        rintro rfl
        exact plain (by decide)
      rw [same, List.singleton_append, readEntities, ih]
      all_goals
        intros
        exact other ‹_›

/-- Data that is escaped neither ends a tag nor leaves its place. -/
theorem scan_escape {place : Place} (takes : place.takesData = true) (s : String) :
    scan place (escape s).toList = some ([], place) := by
  refine scan_of_stays fun c inside => ?_
  have other {d : Char} (known : d ∈ special) (plain : d ≠ '&') : c ≠ d := by
    rintro rfl
    exact plain (eq_amp_of_mem_escape inside known)
  have left : c ≠ '<' := other (by decide) (by decide)
  have right : c ≠ '>' := other (by decide) (by decide)
  cases place with
  | text => rw [Place.next, if_neg right, if_neg left]
  | tag read => cases takes
  | value quote read =>
    have differs : c ≠ quote := by
      simp only [Place.takesData, decide_eq_true_eq] at takes
      rcases takes with rfl | rfl
      · exact other (by decide) (by decide)
      · exact other (by decide) (by decide)
    rw [Place.next, if_neg (not_or_intro left right), if_neg differs]

/-- Whether a character means nothing in the text of a page. -/
def isPlain (c : Char) : Bool := c ≠ '<' && c ≠ '>' && c ≠ '&'

/-- Whether a text has such characters only. -/
def Free (s : String) : Prop := ∀ c ∈ s.toList, isPlain c = true

/-- Such a text is a page without tags. -/
theorem Free.tags {s : String} (free : Free s) : tags s = some [] := by
  have passed : scan .text s.toList = some ([], .text) := by
    refine scan_of_stays fun c inside => ?_
    have plain := free c inside
    simp only [isPlain, Bool.and_eq_true, decide_eq_true_eq] at plain
    rw [Place.next, if_neg plain.1.2, if_neg plain.1.1]
  rw [Markup.tags, passed]

/-- The characters of a piece. -/
def pieceChars : MarkupPiece → List Char
  | .markup s => s.toList
  | .slot data => (escape data).toList

theorem toList_text (page : Markup) : (text page).toList = page.flatMap pieceChars := by
  induction page with
  | nil => rfl
  | cons piece page ih =>
    rw [text, List.map_cons, String.join_cons, String.toList_append, ← text, ih, List.flatMap_cons]
    cases piece <;> rfl

/-- Whether a part of a page, read from a place on, has these tags and leads to another place, and all
its ampersands are those of entities. -/
structure Reads (place : Place) (page : Markup) (tags : List String) (last : Place) : Prop where
  scans : scan place (page.flatMap pieceChars) = some (tags, last)
  amps : onlyEntities (page.flatMap pieceChars) = true

/-- Whether a part of a page stands in text and has these tags. -/
def HasTags (page : Markup) (tags : List String) : Prop := Reads .text page tags .text

namespace Reads

variable {place middle last : Place} {page page' : Markup} {tags tags' : List String}

theorem nil : Reads place [] [] place := ⟨rfl, rfl⟩

theorem append (first : Reads place page tags middle) (second : Reads middle page' tags' last) :
    Reads place (page ++ page') (tags ++ tags') last where
  scans := by
    rw [List.flatMap_append]
    exact scan_append first.scans second.scans
  amps := by
    rw [List.flatMap_append]
    exact onlyEntities_append first.amps second.amps

theorem cons {piece : MarkupPiece} (first : Reads place [piece] tags middle)
    (second : Reads middle page tags' last) : Reads place (piece :: page) (tags ++ tags') last :=
  first.append second

/-- Markup is checked by its characters. -/
theorem markup {s : String} {cs : List Char} (spelled : s = String.ofList cs)
    (checked : scan place cs = some (tags, last) ∧ onlyEntities cs = true) :
    Reads place [.markup s] tags last := by
  have same : [MarkupPiece.markup s].flatMap pieceChars = cs := by
    rw [List.flatMap_singleton, pieceChars, spelled, String.toList_ofList]
  exact ⟨same ▸ checked.1, same ▸ checked.2⟩

/-- Markup in which no tag ends. -/
theorem plain {s : String} {cs : List Char} (spelled : s = String.ofList cs)
    (checked : scan place cs = some ([], middle) ∧ onlyEntities cs = true)
    (rest : Reads middle page tags last) : Reads place (.markup s :: page) tags last :=
  (markup spelled checked).cons rest

/-- Data has no tags and does not leave its place. -/
theorem data {s : String} (takes : place.takesData = true) (rest : Reads place page tags last) :
    Reads place (.slot s :: page) tags last := by
  have alone : Reads place [.slot s] [] place := by
    constructor
    · rw [List.flatMap_singleton, pieceChars, scan_escape takes]
    · rw [List.flatMap_singleton]
      exact onlyEntities_escape s
  exact alone.cons rest

theorem slot {s : String} (rest : Reads .text page tags last) :
    Reads .text (.slot s :: page) tags last := data rfl rest

theorem quoted {s : String} (read : List Char) (rest : Reads (.value '"' read) page tags last) :
    Reads (.value '"' read) (.slot s :: page) tags last := data rfl rest

end Reads

namespace HasTags

variable {page : Markup} {tags tags' : List String}

theorem markup_append {s s' : String} (first : HasTags [.markup s] tags)
    (second : HasTags [.markup s'] tags') : HasTags [.markup (s ++ s')] (tags ++ tags') := by
  have same : [MarkupPiece.markup (s ++ s')].flatMap pieceChars =
      [MarkupPiece.markup s, .markup s'].flatMap pieceChars := by
    simp only [List.flatMap_cons, List.flatMap_nil, pieceChars, String.toList_append, List.append_assoc]
  have both := Reads.cons first second
  exact ⟨same ▸ both.scans, same ▸ both.amps⟩

theorem flatMap {α : Type} {xs : List α} {part : α → Markup} {own : α → List String}
    (each : ∀ x ∈ xs, HasTags (part x) (own x)) : HasTags (xs.flatMap part) (xs.flatMap own) := by
  induction xs with
  | nil => exact Reads.nil
  | cons x xs ih =>
    have rest := ih fun y member => each y (List.mem_cons_of_mem x member)
    exact (each x List.mem_cons_self).append rest

theorem conditional (condition : Bool) (part : HasTags page tags) :
    HasTags (Markup.when condition page) (if condition then tags else []) := by
  unfold Markup.when
  cases condition with
  | true => exact part
  | false => exact Reads.nil

/-- The tags of a part that is a page are the tags of its text. -/
theorem tags_text (part : HasTags page tags) : Markup.tags page.text = some tags := by
  rw [Markup.tags, toList_text, part.scans]

/-- All ampersands of a part that is a page are those of entities. -/
theorem onlyEntities_text (part : HasTags page tags) : onlyEntities page.text.toList = true := by
  rw [toList_text]
  exact part.amps

end HasTags

end Markup

end InvoiceForms
