import EditionCheck.Proofs.Script.Grammar
import EditionCheck.Proofs.Script.Visits
import EditionCheck.Script.Oracle

/-!
  Where the nodes of a tree start and stop.

  Of a parser the detector needs no more than this: the nodes start and stop at boundaries of the
  text that was read (`Reader.Spanned`), and two numeric literals at one place are the same
  (`Reader.NumeralsApart`). The parser of this library has both properties, since its trees are
  placed in the text and a numeric literal is the numeral that the lexer reads there.
-/

namespace EditionCheck.Script

open Text (IsBoundary)

namespace Node

/-- Every node starts and stops at a boundary of the text. -/
def Spanned (text : List Char) (tree : Node) : Prop :=
  ∀ n ∈ tree.nodes, IsBoundary text n.start ∧ IsBoundary text n.stop

/-- The node is a number or a big integer. -/
def IsNumeric (n : Node) : Prop := n.kind = .number ∨ n.kind = .bigInt

instance (n : Node) : Decidable n.IsNumeric := inferInstanceAs (Decidable (_ ∨ _))

/-- Numeric literals that start at one place are of one kind and stop at one place. -/
def NumeralsApart (tree : Node) : Prop :=
  ∀ n ∈ tree.nodes, ∀ m ∈ tree.nodes, n.IsNumeric → m.IsNumeric → n.start = m.start →
    n.kind = m.kind ∧ n.stop = m.stop

end Node

namespace Reader

/-- The parser gives every node the place in the text where it stands. -/
def Spanned (read : Reader) : Prop :=
  ∀ kind text (tree : Tree), read kind text = .ok tree → tree.root.Spanned text.toList

/-- The parser reads no two numeric literals at one place. -/
def NumeralsApart (read : Reader) : Prop :=
  ∀ kind text (tree : Tree), read kind text = .ok tree → tree.root.NumeralsApart

end Reader

/-! ## The parser of this library -/

namespace Node

variable {text : List Char} {tree n m : Node}

theorem Placed.spanned (h : tree.Placed text) : tree.Spanned text :=
  fun n hn => ⟨(h n hn).start, (h n hn).stop⟩

/-- Where a numeral starts decides what kind of one it is and where it stops. -/
theorem IsNumeral.eq_of_start {big big' : Bool} (hn : n.IsNumeral text big)
    (hm : m.IsNumeral text big') (h : n.start = m.start) : big = big' ∧ n.stop = m.stop := by
  obtain ⟨cs, width, rest, hcs, hread, hstop⟩ := hn
  obtain ⟨cs', width', rest', hcs', hread', hstop'⟩ := hm
  have heq : cs = cs' := by
    rw [← Text.dropBytes_of_after hcs, ← Text.dropBytes_of_after hcs', h]
  rw [heq, hread'] at hread
  cases hread
  exact ⟨rfl, by rw [hstop, hstop', h]⟩

theorem Placed.isNumeral (h : tree.Placed text) (hn : n ∈ tree.nodes) (hnum : n.IsNumeric) :
    ∃ big, n.kind = (if big then .bigInt else .number) ∧ n.IsNumeral text big := by
  rcases hnum with hk | hk
  · exact ⟨false, hk, (h n hn).number hk⟩
  · exact ⟨true, hk, (h n hn).bigInt hk⟩

theorem Placed.numeralsApart (h : tree.Placed text) : tree.NumeralsApart := by
  intro n hn m hm hnum hnum' hstart
  obtain ⟨big, hk, hnumeral⟩ := h.isNumeral hn hnum
  obtain ⟨big', hk', hnumeral'⟩ := h.isNumeral hm hnum'
  obtain ⟨rfl, hstop⟩ := hnumeral.eq_of_start hnumeral' hstart
  exact ⟨hk.trans hk'.symm, hstop⟩

end Node

section Library

variable {kind : SourceKind} {text : String} {tree : Tree}

theorem reader_eq_ok :
    reader kind text = .ok tree ↔ parse (kind == .module) text.toList = some tree := by
  unfold reader
  cases parse (kind == .module) text.toList <;> simp

theorem reader_eq_error {message : String} :
    reader kind text = .error message ↔
      parse (kind == .module) text.toList = none ∧ message = unparsableMessage := by
  unfold reader
  cases parse (kind == .module) text.toList <;> simp [eq_comm]

theorem reader_placed (h : reader kind text = .ok tree) : tree.root.Placed text.toList :=
  parse_placed (reader_eq_ok.1 h)

theorem reader_spanned : reader.Spanned := fun _ _ _ h => (reader_placed h).spanned

theorem reader_numeralsApart : reader.NumeralsApart :=
  fun _ _ _ h => (reader_placed h).numeralsApart

end Library

end EditionCheck.Script
