import Mathlib.Data.List.TakeWhile
import DbsMonitor.Mail

/-!
# Which bodies arrive complete

A line ends with a line feed, or with a carriage return and a line feed. The scanner takes a
carriage return off the last line too, and it loses all lines from the first one on that does not
fit into its buffer.
-/

namespace DbsMonitor.Mail

def lines : List UInt8 → List (List UInt8)
  | [] => []
  | byte :: text =>
    if byte = lf then [] :: lines text
    else if byte = cr ∧ text.head? = some lf then lines text
    else consFirst byte (lines text)

def bodyOf (packages : Packages) (sender : String) (message : Message) : List UInt8 :=
  (encodeMessage packages sender message).drop (header packages sender message).length

/-- The scanner gets through the text, and the text does not end with a carriage return. -/
def Scannable (text : List UInt8) : Prop :=
  (∀ piece ∈ pieces text, piece.length < maxScanTokenSize) ∧ text.getLast? ≠ some cr

variable {byte : UInt8} {text piece : List UInt8}

theorem consFirst_inj {xs ys : List (List UInt8)} (hxs : xs ≠ []) (hys : ys ≠ []) :
    consFirst byte xs = consFirst byte ys ↔ xs = ys := by
  cases xs <;> cases ys <;> simp_all [consFirst]

theorem length_consFirst {xs : List (List UInt8)} (h : xs ≠ []) :
    (consFirst byte xs).length = xs.length := by
  cases xs <;> simp_all [consFirst]

theorem pieces_ne_nil (h : text ≠ []) : pieces text ≠ [] := by
  cases text with
  | nil => exact absurd rfl h
  | cons byte text =>
    rw [pieces]
    split_ifs
    · simp
    · cases pieces text <;> simp [consFirst]

theorem length_lines : ∀ text : List UInt8, (lines text).length = (pieces text).length
  | [] => rfl
  | byte :: text => by
    have ih := length_lines text
    rw [lines, pieces]
    split_ifs with hlf hcrlf
    · simp [ih]
    · -- the line feed behind it ends the piece
      cases text with
      | nil => simp at hcrlf
      | cons next text => rw [ih, length_consFirst (pieces_ne_nil (List.cons_ne_nil _ _))]
    · cases text with
      | nil => rfl
      | cons next text =>
        have hpieces := pieces_ne_nil (List.cons_ne_nil next text)
        have hlines : lines (next :: text) ≠ [] := by
          rw [← List.length_pos_iff, ih]
          exact List.length_pos_iff.mpr hpieces
        rw [length_consFirst hlines, length_consFirst hpieces, ih]

theorem dropCR_cons (h : piece ≠ [] ∨ byte ≠ cr) :
    dropCR (byte :: piece) = byte :: dropCR piece := by
  cases piece with
  | nil => simp_all [dropCR]
  | cons next piece =>
    simp only [dropCR, List.getLast?_cons_cons, List.dropLast_cons_cons]
    split_ifs <;> rfl

theorem map_dropCR_pieces_iff : ∀ text : List UInt8,
    (pieces text).map dropCR = lines text ↔ text.getLast? ≠ some cr
  | [] => by simp [pieces, lines]
  | [byte] => by
    by_cases hlf : byte = lf
    · simp [pieces, lines, dropCR, hlf, lf, cr]
    · by_cases hcr : byte = cr
      · simp [pieces, lines, dropCR, consFirst, hcr, lf, cr]
      · simp [pieces, lines, dropCR, consFirst, hlf, hcr]
  | byte :: next :: text => by
    have ih := map_dropCR_pieces_iff (next :: text)
    have hpieces := pieces_ne_nil (List.cons_ne_nil next text)
    rw [List.getLast?_cons_cons, ← ih, pieces, lines]
    split_ifs with hlf hcrlf
    · simp [dropCR]
    · -- the piece is the carriage return alone
      obtain ⟨rfl, hnext⟩ := hcrlf
      obtain rfl : next = lf := by simpa using hnext
      simp [pieces, consFirst, dropCR]
    · have hlines : lines (next :: text) ≠ [] := by
        rw [← List.length_pos_iff, length_lines]
        exact List.length_pos_iff.mpr hpieces
      have hmap : (consFirst byte (pieces (next :: text))).map dropCR
          = consFirst byte ((pieces (next :: text)).map dropCR) := by
        by_cases hnext : next = lf
        · have hbyte : byte ≠ cr := fun h => hcrlf ⟨h, by simp [hnext]⟩
          simp [pieces, hnext, consFirst, dropCR_cons (.inr hbyte)]
        · rw [pieces, if_neg hnext]
          cases pieces text <;> simp [consFirst, dropCR_cons]
      rw [hmap, consFirst_inj (by simpa using hpieces) hlines]

theorem lf_notMem_of_mem_pieces : ∀ {text piece : List UInt8}, piece ∈ pieces text → lf ∉ piece
  | byte :: text, piece, h => by
    rw [pieces] at h
    split_ifs at h with hlf
    · rcases List.mem_cons.mp h with rfl | h
      · simp
      · exact lf_notMem_of_mem_pieces h
    · have ih : ∀ piece ∈ pieces text, lf ∉ piece := fun _ => lf_notMem_of_mem_pieces
      cases hpieces : pieces text with
      | nil =>
        rw [hpieces] at h
        obtain rfl : piece = [byte] := by simpa [consFirst] using h
        simpa using Ne.symm hlf
      | cons first rest =>
        rw [hpieces] at h ih
        rcases List.mem_cons.mp h with rfl | h
        · simp [Ne.symm hlf, ih first List.mem_cons_self]
        · exact ih piece (List.mem_cons_of_mem _ h)

theorem lf_notMem_of_mem_scanLines (h : piece ∈ scanLines text) : lf ∉ piece := by
  obtain ⟨whole, hwhole, rfl⟩ := List.mem_map.mp h
  have hnot := lf_notMem_of_mem_pieces ((List.takeWhile_prefix _).subset hwhole)
  unfold dropCR
  split_ifs
  · exact fun hmem => hnot (List.mem_of_mem_dropLast hmem)
  · exact hnot

theorem lines_append_crlf (h : lf ∉ piece) (text : List UInt8) :
    lines (piece ++ crlf ++ text) = piece :: lines text := by
  induction piece with
  | nil => simp [lines, crlf, lf, cr]
  | cons byte piece ih =>
    rw [List.mem_cons, not_or] at h
    obtain ⟨hbyte, hpiece⟩ := h
    have hhead : (piece ++ crlf ++ text).head? ≠ some lf := by
      cases piece with
      | nil => simp [crlf, lf, cr]
      | cons next piece => simpa using fun hnext => hpiece (by simp [hnext])
    rw [List.cons_append, List.cons_append, lines, if_neg (Ne.symm hbyte),
      if_neg fun hcrlf => hhead hcrlf.2, ih hpiece]
    rfl

theorem lines_encodeBody (text : List UInt8) : lines (encodeBody text) = scanLines text := by
  have hnot : ∀ piece ∈ scanLines text, lf ∉ piece := fun _ => lf_notMem_of_mem_scanLines
  unfold encodeBody
  revert hnot
  induction scanLines text with
  | nil => exact fun _ => rfl
  | cons piece rest ih =>
    intro hnot
    obtain ⟨hpiece, hrest⟩ := List.forall_mem_cons.mp hnot
    rw [List.flatMap_cons, lines_append_crlf hpiece, ih hrest]

theorem lines_encodeBody_iff (text : List UInt8) :
    lines (encodeBody text) = lines text ↔ Scannable text := by
  rw [lines_encodeBody, scanLines, Scannable, ← map_dropCR_pieces_iff]
  constructor
  · intro h
    -- no piece is missing, since there are as many as lines
    have hall : (pieces text).takeWhile (fun piece => piece.length < maxScanTokenSize)
        = pieces text := by
      refine (List.takeWhile_prefix _).eq_of_length ?_
      rw [← length_lines, ← h, List.length_map]
    rw [hall] at h
    exact ⟨fun piece hpiece => by simpa using List.takeWhile_eq_self_iff.mp hall piece hpiece, h⟩
  · rintro ⟨hfits, h⟩
    rw [List.takeWhile_eq_self_iff.mpr fun piece hpiece => decide_eq_true (hfits piece hpiece), h]

theorem bodyOf_eq (packages : Packages) (sender : String) (message : Message) :
    bodyOf packages sender message = encodeBody (utf8 message.body) :=
  List.drop_left

/-- The lines of an encoded body are those of the body exactly when none is too long for the scanner
and the body does not end with a carriage return. -/
theorem body_lines_kept_iff (packages : Packages) (sender : String) (message : Message) :
    lines (bodyOf packages sender message) = lines (utf8 message.body)
      ↔ Scannable (utf8 message.body) := by
  rw [bodyOf_eq]
  exact lines_encodeBody_iff _

theorem pieces_append_lf (h : lf ∉ piece) (text : List UInt8) :
    pieces (piece ++ lf :: text) = piece :: pieces text := by
  induction piece with
  | nil => simp [pieces]
  | cons byte piece ih =>
    rw [List.mem_cons, not_or] at h
    obtain ⟨hbyte, hpiece⟩ := h
    rw [List.cons_append, pieces, if_neg (Ne.symm hbyte), ih hpiece]
    rfl

theorem utf8_append (first second : String) :
    utf8 (first ++ second) = utf8 first ++ utf8 second := by
  simp [utf8]

theorem utf8_replicate (n : ℕ) :
    utf8 (String.ofList (List.replicate n 'a')) = List.replicate n 97 := by
  induction n with
  | zero => rfl
  | succ n ih =>
    rw [utf8, String.toList_ofList] at ih ⊢
    rw [List.replicate_succ, List.flatMap_cons, ih]
    rfl

def plainPackages : Packages := { address := utf8, encodeSubject := utf8 }

def longRule : AlertPayload :=
  { ruleName := String.ofList (List.replicate maxScanTokenSize 'a'), instanceName := "orders" }

theorem name_mem_pieces (label name : List UInt8) (hlabel : lf ∉ label) (hname : lf ∉ name)
    (text : List UInt8) :
    utf8 "规则：" ++ name ∈ pieces (label ++ (utf8 "\n\n规则：" ++ (name ++ (lf :: text)))) := by
  have hgap : utf8 "\n\n规则：" = lf :: lf :: utf8 "规则：" := by decide
  have hrule : lf ∉ utf8 "规则：" := by decide
  rw [hgap, List.cons_append, List.cons_append, pieces_append_lf hlabel, pieces, if_pos rfl,
    ← List.append_assoc, pieces_append_lf (by simp [hrule, hname])]
  simp

/-- The mail of an alert ends before the name of its rule. -/
theorem long_name_cuts_body : ∃ message, formatAlertMessage .firing longRule = some message
    ∧ lines (bodyOf plainPackages "dbs@example.com" message) ≠ lines (utf8 message.body) := by
  refine ⟨_, rfl, ?_⟩
  rw [bodyOf_eq, ne_eq, lines_encodeBody_iff]
  rintro ⟨hfits, -⟩
  have hafter : utf8 "\n实例：" = lf :: utf8 "实例：" := by decide
  have hname : utf8 longRule.ruleName = List.replicate maxScanTokenSize 97 := utf8_replicate _
  simp only [utf8_append, List.append_assoc, hname, hafter, List.cons_append] at hfits
  have hlength := hfits _ (name_mem_pieces _ _ (by decide) (by simp [lf]) _)
  rw [List.length_append, List.length_replicate] at hlength
  omega

end DbsMonitor.Mail
