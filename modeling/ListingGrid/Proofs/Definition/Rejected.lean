import ListingGrid.Proofs.Definition.Advance
import ListingGrid.Proofs.Text.Places
import Mathlib.Data.List.Forall2

/-!
# Where a text is rejected

The error of a rejected formula or definition points into its source: to the end of a prefix,
at a boundary of characters, whose line and column it gives. What the failed parser left is
the rest of the source, as every parser goes forward.
-/

set_option autoImplicit false

namespace ListingGrid.Grammar

open ListingGrid.Grammar.Parser

variable {α : Type}

def Result.failure? : Result α → Option Failure
  | .done _ _ => none
  | .fail failure | .abort failure => some failure

theorem Result.left_of_failure {r : Result α} {failure : Failure} (h : r.failure? = some failure) :
    r.left = failure.rest := by
  cases r with
  | done => simp [Result.failure?] at h
  | fail f | abort f =>
    obtain rfl : f = failure := by simpa [Result.failure?] using h
    rfl

def Parser.throughout (p : Parser α) : Parser α := do
  let value ← p
  Parser.ending
  return value

theorem Parser.advances_throughout {p : Parser α} (hp : Advances p) : Advances (throughout p) :=
  advances_bind hp fun _ => advances_bind advances_ending fun _ => advances_pure _

def rejection? (kind : SourceKind) (source : List Char) : Option Failure :=
  match kind with
  | .formula => (throughout Formula.whole source).failure?
  | .definition => (throughout (Report.whole source) source).failure?

theorem rejection_suffix {kind : SourceKind} {source : List Char} {failure : Failure}
    (h : rejection? kind source = some failure) : failure.rest <:+ source := by
  cases kind with
  | formula =>
    rw [← Result.left_of_failure h]
    exact advances_throughout Formula.advances_whole source
  | definition =>
    rw [← Result.left_of_failure h]
    exact advances_throughout (Report.advances_whole source) source

theorem readAll_eq_error {kind : SourceKind} {p : Parser α} {source : List Char} {e : SourceError} :
    readAll kind p source = .error e ↔ ∃ failure, (throughout p source).failure? = some failure ∧
      e = SourceError.locate kind source failure.rest.length failure.describe := by
  have hread : readAll kind p source = match throughout p source with
      | .done value _ => .ok value
      | .fail failure | .abort failure =>
        .error (SourceError.locate kind source failure.rest.length failure.describe) := rfl
  rw [hread]
  cases throughout p source <;> simp [Result.failure?, eq_comm]

/-- The error of either grammar is that of its failure. -/
theorem exists_rejection {text : String} {e : SourceError}
    (h : readFormula text = .error e ∨ readDefinition text = .error e) :
    ∃ failure, rejection? e.kind text.toList = some failure ∧
      e = SourceError.locate e.kind text.toList failure.rest.length failure.describe := by
  rcases h with h | h
  · have hread : readAll .formula Formula.whole text.toList = .error e := by
      unfold readFormula at h
      cases hall : readAll .formula Formula.whole text.toList with
      | ok => simp [hall, Except.map] at h
      | error e' => simpa [hall, Except.map] using h
    obtain ⟨failure, hfailure, rfl⟩ := readAll_eq_error.mp hread
    exact ⟨failure, hfailure, rfl⟩
  · obtain ⟨failure, hfailure, rfl⟩ := readAll_eq_error.mp h
    exact ⟨failure, hfailure, rfl⟩

namespace SourceError

/-- What stands under a character in front of the caret: a tab under a tab, otherwise a space. -/
def Padding (c mark : Char) : Prop := if c = '\t' then mark = '\t' else mark = ' '

/-- An error that points to the end of `before`, in a source that goes on with `after`. -/
structure PointsTo (e : SourceError) (source : String) (before after : List Char) : Prop where
  split : source.toList = before ++ after
  /-- Line and column are those of the end of `before`. -/
  place : Text.EndsAt before e.line e.column
  /-- No other prefix of the source ends there. -/
  recovered : ∀ other, other <+: source.toList → Text.EndsAt other e.line e.column → other = before
  /-- The snippet is the line that begins behind the last line feed of `before`. -/
  snippet : ∀ head last, before = head ++ last → Text.EndsLine head → '\n' ∉ last →
    Text.FirstLine (last ++ after) e.snippet.toList
  pointer : ∃ pad : List Char, e.pointer = e.snippet ++ "\n" ++ String.ofList pad ++ "^" ∧
    pad.length = min (e.column - 1) e.snippet.toList.length ∧
    List.Forall₂ Padding (e.snippet.toList.take (e.column - 1)) pad
  /-- The bytes in front of the rest are those of `before`, so they end with a character. -/
  boundary :
    (String.ofList after).utf8ByteSize ≤ source.utf8ByteSize ∧
    String.Pos.Raw.IsValid source ⟨source.utf8ByteSize - (String.ofList after).utf8ByteSize⟩ ∧
    source.toByteArray.extract 0 (source.utf8ByteSize - (String.ofList after).utf8ByteSize) =
      (String.ofList before).toByteArray

theorem pointer_eq (e : SourceError) :
    ∃ pad : List Char, e.pointer = e.snippet ++ "\n" ++ String.ofList pad ++ "^" ∧
      pad.length = min (e.column - 1) e.snippet.toList.length ∧
      List.Forall₂ Padding (e.snippet.toList.take (e.column - 1)) pad := by
  refine ⟨_, rfl, by simp, ?_⟩
  rw [List.forall₂_map_right_iff, List.forall₂_same]
  intro c _
  unfold Padding
  split <;> rfl

/-- The place of what is left of a source is where it begins. -/
theorem locate_pointsTo {source : String} {before after : List Char}
    (hsplit : source.toList = before ++ after) (kind : SourceKind) (message : String) :
    (locate kind source.toList after.length message).PointsTo source before after := by
  have htake : source.toList.take (source.toList.length - after.length) = before := by
    simp [hsplit]
  have hplace : Text.EndsAt before (locate kind source.toList after.length message).line
      (locate kind source.toList after.length message).column := by
    rw [Text.endsAt_iff, locate, htake]
    exact ⟨rfl, rfl⟩
  have hbefore : before <+: source.toList := ⟨after, hsplit.symm⟩
  have hsource : source = String.ofList before ++ String.ofList after := by
    rw [← String.ofList_append, ← hsplit, String.ofList_toList]
  have hoffset : source.utf8ByteSize - (String.ofList after).utf8ByteSize =
      (String.ofList before).utf8ByteSize := by
    rw [hsource, String.utf8ByteSize_append]
    omega
  refine ⟨hsplit, hplace, ?_, ?_, pointer_eq _, ?_, ?_, ?_⟩
  · intro other hother hat
    exact hat.eq hplace hother hbefore
  · rintro head last rfl hhead hlast
    simp only [locate, htake, String.toList_ofList]
    rw [hsplit]
    exact Text.firstLine_at hhead hlast
  · rw [hsource, String.utf8ByteSize_append]
    omega
  · rw [hoffset, String.Pos.Raw.isValid_iff_exists_append]
    exact ⟨_, _, hsource, rfl⟩
  · rw [hoffset, hsource, String.toByteArray_append]
    exact ByteArray.extract_append_eq_left rfl

end SourceError

/-- The error of every rejected text points to where the rest begins that the failed grammar
left: the line and column of that place, its line as the snippet, and a caret under it. -/
theorem rejected_pointsTo (text : String) (e : SourceError)
    (h : readFormula text = .error e ∨ readDefinition text = .error e) :
    ∃ failure before, rejection? e.kind text.toList = some failure ∧
      e.message = failure.describe ∧ e.PointsTo text before failure.rest := by
  obtain ⟨failure, hfailure, he⟩ := exists_rejection h
  obtain ⟨before, hsplit⟩ := rejection_suffix hfailure
  refine ⟨failure, before, hfailure, ?_, ?_⟩
  · rw [he]
    rfl
  · rw [he]
    exact SourceError.locate_pointsTo hsplit.symm e.kind failure.describe

theorem rejected_pointsTo_behind_tab :
    ∃ e, readFormula "\r\n\té=1\r\n" = .error e ∧ e.line = 2 ∧ e.column = 2 ∧
      e.snippet = "\té=1" ∧ e.pointer = "\té=1\n\t^" ∧
      ∃ failure before, rejection? e.kind "\r\n\té=1\r\n".toList = some failure ∧
        e.message = failure.describe ∧ e.PointsTo "\r\n\té=1\r\n" before failure.rest := by
  have h : readFormula "\r\n\té=1\r\n" = .error ⟨.formula, 2, 2,
      "expected formula (\"text\", number or =expression)", "\té=1"⟩ := by decide
  exact ⟨_, h, rfl, rfl, rfl, by decide, rejected_pointsTo _ _ (.inl h)⟩

end ListingGrid.Grammar
