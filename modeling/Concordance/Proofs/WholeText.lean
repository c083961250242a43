import Concordance.Crawl.Web
import Concordance.Proofs.EncodedText
import Concordance.Proofs.LineTerms

/-!
# A file has the terms of its text

A file has terms if its content is the encoding of a text, and these are the
terms that a page has which shows this text (`Tree.terms?_whole`). How the
content is cut into lines makes no difference, nor whether a carriage return in
front of a line feed is taken for part of the line or of its end. A line feed
and a carriage return are blanks, a blank is read as it stands, and nothing is
read across it.
-/

namespace Concordance

namespace Text

/-! ## Line ends of two characters -/

/-- A line without the carriage return it may end with. -/
def chopReturn (line : List UInt8) : List UInt8 :=
  if line.getLast? = some 0x0D then line.dropLast else line

/-- The lines of a byte sequence, where a carriage return in front of a line
feed belongs to the end of the line. As many lines are ended as there are line
feeds. -/
def chompedLines (bytes : List UInt8) : List (List UInt8) :=
  let lines := byteLines bytes
  let ended := bytes.count 0x0A
  (lines.take ended).map chopReturn ++ lines.drop ended

theorem eq_chopReturn (line : List UInt8) :
    chopReturn line = line ∨ line = chopReturn line ++ [0x0D] := by
  unfold chopReturn
  split
  · next hlast => exact .inr (List.dropLast_append_getLast? _ hlast).symm
  · exact .inl rfl

end Text

/-- A carriage return at the end of a line adds no term. -/
theorem lineTerms?_cons_return (line : List UInt8) (lines : List (List UInt8)) :
    lineTerms? ((line ++ [0x0D]) :: lines) = lineTerms? (line :: lines) := by
  have hdecode : Text.Utf8.decode? (line ++ [0x0D]) =
      (Text.Utf8.decode? line).map (· ++ ['\r']) := by
    rw [Text.Utf8.decode?_append_ascii (by decide)]
    cases Text.Utf8.decode? line <;> rfl
  rw [lineTerms?, lineTerms?, hdecode]
  cases Text.Utf8.decode? line with
  | none => rfl
  | some text =>
      dsimp only [Option.map_some, Option.bind_some]
      rw [stems_append_blank rfl, show stems [] = [] from rfl,
        List.append_nil]

theorem lineTerms?_map_chopReturn (lines rest : List (List UInt8)) :
    lineTerms? (lines.map Text.chopReturn ++ rest) =
      lineTerms? (lines ++ rest) := by
  induction lines with
  | nil => rfl
  | cons line lines ih =>
      have hrest : ∀ line, lineTerms? (line :: (lines.map Text.chopReturn ++
          rest)) = lineTerms? (line :: (lines ++ rest)) := by
        intro line
        rw [lineTerms?, lineTerms?, ih]
      rw [List.map_cons, List.cons_append, List.cons_append, hrest]
      have hline := Text.eq_chopReturn line
      generalize Text.chopReturn line = front at hline
      rcases hline with rfl | rfl
      · rfl
      · exact (lineTerms?_cons_return front _).symm

theorem lineTerms?_chompedLines (content : List UInt8) :
    lineTerms? (Text.chompedLines content) =
      lineTerms? (Text.byteLines content) := by
  rw [Text.chompedLines, lineTerms?_map_chopReturn, List.take_append_drop]

/-! ## Files, pages and texts -/

/-- What a file with this content has for terms. -/
structure Tree.ReadsAsText (tree : Tree) (path : String)
    (content : List UInt8) : Prop where
  isOk_iff : (tree.terms? path).isOk = true ↔ content.toByteArray.IsValidUTF8
  invalid : ¬content.toByteArray.IsValidUTF8 →
    tree.terms? path = .error .invalidData
  terms : ∀ text : String, Text.Utf8.encode text.toList = content →
    tree.terms? path = .ok (terms text)
  /-- With the carriage returns at the ends of lines taken off, it has the same. -/
  chomped : tree.terms? path =
    match lineTerms? (Text.chompedLines content) with
    | some terms => .ok terms
    | none => .error .invalidData
  /-- So has a page that shows the text. -/
  page : ∀ (url : Url) (source : List Char),
    Text.Utf8.encode (Markup.stripEntities (Markup.stripTags
      (Markup.stripBlockElements source))) = content →
    tree.terms? path = .ok (PageContent.ofSource url source).terms

theorem Tree.readsAsText {tree : Tree} {path : String} {content : List UInt8}
    (h : tree.read? path = .ok content) : tree.ReadsAsText path content := by
  have hread := terms?_of_read? h
  have htext : ∀ text : List Char, Text.Utf8.encode text = content →
      tree.terms? path = .ok ((stems text).map String.ofList) := by
    intro text htext
    rw [hread, Text.Utf8.decode?_eq_some_iff.mpr htext]
  constructor
  case isOk_iff =>
    rw [hread, ← not_iff_not, ← Text.Utf8.decode?_eq_none_iff]
    cases Text.Utf8.decode? content with
    | none => exact iff_of_true Bool.false_ne_true rfl
    | some text => exact iff_of_false (fun h => h rfl) (by simp)
  case invalid =>
    intro hinvalid
    rw [hread, Text.Utf8.decode?_eq_none_iff.mpr hinvalid]
  case terms => exact fun text => htext text.toList
  case chomped =>
    rw [hread, lineTerms?_chompedLines, lineTerms?_byteLines]
    cases Text.Utf8.decode? content <;> rfl
  case page =>
    intro url source hpage
    rw [htext _ hpage, PageContent.ofSource]

/-- Across a blank nothing is read, whatever is made of the words. So a file has
terms if its content is well-formed text, and these are the terms of the text. -/
theorem terms_split_at_blanks :
    (∀ {c : Char}, Text.isBlank c = true → ∀ xs ys : List Char,
      Text.words (Text.clean (xs ++ c :: ys)) =
        Text.words (Text.clean xs) ++ Text.words (Text.clean ys) ∧
      ∀ stem : List Char → List Char,
        (Text.words (Text.clean (xs ++ c :: ys))).map stem =
          (Text.words (Text.clean xs)).map stem ++
            (Text.words (Text.clean ys)).map stem) ∧
    ∀ {tree : Tree} {path : String} {content : List UInt8},
      tree.read? path = .ok content → tree.ReadsAsText path content := by
  constructor
  · intro c hc xs ys
    have hwords := Text.words_clean_append_blank hc xs ys
    refine ⟨hwords, fun stem => ?_⟩
    rw [hwords, List.map_append]
  · exact Tree.readsAsText

/-- A text with line ends of all kinds, but with none at its end. -/
def letter : String := "Über\r\nΟΔΟΣ\rΑΣ\n\nruns"

/-- A file with that text, and one that ends within a character. -/
def letters : Tree :=
  .dir [("a", .file (Text.Utf8.encode letter.toList)),
    ("b", .file (Text.Utf8.encode "fine\n".toList ++ [0xC3]))]

/-- A page that shows that text. -/
def letterPage : List Char :=
  "<b>Über</b>\r\nΟΔΟΣ\r<!-- -->ΑΣ\n\nruns".toList

theorem terms_letters :
    Text.words (Text.clean ("ΟΔΟΣ".toList ++ '\u2000' :: "ΑΣ".toList)) =
      ["οδος".toList, "ας".toList] ∧
    letters.terms? "a" = .ok ["uber", "οδος", "ας", "run"] ∧
    letters.terms? "a" = .ok (PageContent.ofSource
      ⟨"http".toList, none, .steps [], none⟩ letterPage).terms ∧
    letters.terms? "b" = .error .invalidData := by
  obtain ⟨hsides, hfiles⟩ := terms_split_at_blanks
  have hread : letters.read? "a" = .ok (Text.Utf8.encode letter.toList) := by
    decide +kernel
  have hbroken : letters.read? "b" = .ok
      (Text.Utf8.encode "fine\n".toList ++ [0xC3]) := by decide +kernel
  have hterms : terms letter = ["uber", "οδος", "ας", "run"] := by
    decide +kernel
  have hpage : Markup.stripEntities (Markup.stripTags
      (Markup.stripBlockElements letterPage)) = letter.toList := by
    decide +kernel
  have hinvalid : Text.Utf8.decode?
      (Text.Utf8.encode "fine\n".toList ++ [0xC3]) = none := by decide
  refine ⟨?_, ?_, ?_, (hfiles hbroken).invalid
    (Text.Utf8.decode?_eq_none_iff.mp hinvalid)⟩
  · rw [(hsides (by decide) _ _).1]
    decide +kernel
  · rw [(hfiles hread).terms letter rfl, hterms]
  · exact (hfiles hread).page _ letterPage (congrArg Text.Utf8.encode hpage)

end Concordance
