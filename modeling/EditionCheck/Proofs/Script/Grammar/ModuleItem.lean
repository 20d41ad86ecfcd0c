import EditionCheck.Proofs.Script.Grammar.Declaration
import EditionCheck.Script.Grammar.ModuleItem

/-!
  Imports and exports are placed in the text.
-/

namespace EditionCheck.Script

open EditionCheck.Script.Parser
open Text (IsBoundary)

variable {text : List Char} {g : Grammar} {s : Scope}

/-! ## Imports -/

theorem yields_moduleName : Yields text moduleName fun p => p.1.Placed text := by
  unfold moduleName
  refine yields_peek.bind fun _ _ => ?_
  split
  · exact .bind (yields_leaf rfl) fun n hn => .pure hn
  · exact yields_guard.bind fun _ _ => .bind (yields_leaf rfl) fun n hn => .pure hn
  · exact .fail

theorem yields_stringLiteral : Yields text stringLiteral (Node.Placed text) := by
  unfold stringLiteral
  refine yields_peek.bind fun _ _ => ?_
  split
  · exact yields_leaf rfl
  · exact .fail

theorem yields_importAttribute : Yields text importAttribute fun p => p.2.Placed text := by
  unfold importAttribute
  refine yields_here.bind fun start hstart => yields_peek.bind fun _ _ => ?_
  extract_lets afterKey
  have hkey : ∀ p, p.1.Placed text → Yields text (afterKey p) fun p => p.2.Placed text := by
    intro ⟨key, _⟩ (hkey : key.Placed text)
    refine yields_expect.bind fun _ _ => yields_stringLiteral.bind fun value hvalue => ?_
    exact .bind (yields_finish rfl hstart (by simp [hkey, hvalue])) fun n hn => .pure hn
  split
  · exact .bind (yields_leaf rfl) fun n hn => hkey (n, _) hn
  · exact .bind (yields_leaf rfl) fun n hn => hkey (n, _) hn
  · exact .fail_bind

theorem yields_attributes : Yields text attributes (Node.AllPlaced text) := by
  unfold attributes
  refine yields_peek.bind fun t ht => .ite ?_ (.pure Node.allPlaced_nil)
  refine yields_advance.bind fun _ _ => yields_expect.bind fun _ _ => ?_
  -- the trees of the attributes are placed, whatever their keys are
  refine .bind (P := fun items : List (List Nat × Node) => Node.AllPlaced text (items.map Prod.snd))
    ?_ fun items hitems => ?_
  · refine yields_loop (fun acc => Node.AllPlaced text (acc.map Prod.snd)) Node.allPlaced_nil ?_
    intro acc hacc
    refine yields_accept.bind fun _ _ => .ite (.done (by simpa using hacc)) ?_
    refine yields_importAttribute.bind fun a ha => yields_guard.bind fun _ _ => ?_
    refine yields_peek.bind fun _ _ => ?_
    extract_lets again
    exact .when yields_expect fun _ => .again (Node.allPlaced_cons.2 ⟨ha, hacc⟩)
  · exact .bind (yields_finish rfl ht.start hitems) fun n hn => .pure (by simp [hn])

theorem yields_fromModule : Yields text fromModule (Node.AllPlaced text) := by
  unfold fromModule
  refine yields_expectWord.bind fun _ _ => yields_stringLiteral.bind fun source hsource => ?_
  exact yields_attributes.bind fun more hmore => .pure (by simp [hsource, hmore])

theorem yields_importSpecifier : Yields text (importSpecifier s) (Node.Placed text) := by
  unfold importSpecifier
  refine yields_peek.bind fun t ht => yields_moduleName.bind ?_
  intro ⟨imported, _⟩ (himported : imported.Placed text)
  refine yields_acceptWord.bind fun _ _ => .ite ?_ ?_
  · refine yields_name.bind fun n hn => ?_
    exact yields_finish rfl ht.start (by simp [himported, hn])
  split
  · exact yields_guard.bind fun _ _ => yields_finish rfl ht.start (by simp [himported])
  · exact .fail

/-- Items in braces satisfy what each item does. -/
theorem yields_inBraces {item : Parser α} {Q : α → Prop} (hitem : Yields text item Q) :
    Yields text (inBraces item) fun xs => ∀ x ∈ xs, Q x := by
  unfold inBraces
  refine yields_expect.bind fun _ _ => ?_
  refine yields_loop (fun acc => ∀ x ∈ acc, Q x) (by simp) fun acc hacc => ?_
  refine yields_accept.bind fun _ _ => .ite (.done (by simpa using hacc)) ?_
  refine hitem.bind fun x hx => yields_peek.bind fun _ _ => ?_
  extract_lets again
  exact .when yields_expect fun _ => .again (List.forall_mem_cons.2 ⟨hx, hacc⟩)

theorem yields_importedNames : Yields text (importedNames s) (Node.AllPlaced text) := by
  unfold importedNames
  refine yields_here.bind fun start hstart => yields_accept.bind fun _ _ => .ite ?_ ?_
  · refine yields_expectWord.bind fun _ _ => yields_name.bind fun n hn => ?_
    exact .bind (yields_finish rfl hstart (by simp [hn])) fun n hn => .pure (by simp [hn])
  · exact yields_inBraces yields_importSpecifier

theorem yields_importPhase : Yields text importPhase fun _ => True := by
  unfold importPhase
  refine yields_peek.bind fun _ _ => yields_peekSecond.bind fun _ _ => .ite yields_advance ?_
  exact .ite yields_advance (.pure trivial)

theorem yields_importDeclaration : Yields text (importDeclaration s) (Node.Placed text) := by
  unfold importDeclaration
  refine yields_here.bind fun start hstart => yields_expectWord.bind fun _ _ => ?_
  refine yields_peek.bind fun _ _ => ?_
  split
  · refine yields_stringLiteral.bind fun source hsource => ?_
    refine yields_attributes.bind fun more hmore => yields_endStatement.bind fun _ _ => ?_
    exact yields_finish rfl hstart (by simp [hsource, hmore])
  refine yields_importPhase.bind fun _ _ => yields_peek.bind fun _ _ => ?_
  extract_lets afterNames
  have hnames : ∀ names, Node.AllPlaced text names →
      Yields text (afterNames names) (Node.Placed text) := by
    intro names hnames
    refine yields_fromModule.bind fun source hsource => yields_endStatement.bind fun _ _ => ?_
    exact yields_finish rfl hstart (by simp [hnames, hsource])
  split
  · refine yields_name.bind fun n hn => ?_
    refine .bind (yields_finish rfl hn.start (by simp [hn])) fun n hn => ?_
    refine yields_accept.bind fun _ _ => .ite ?_ (hnames [n] (by simp [hn]))
    exact yields_importedNames.bind fun more hmore => hnames (n :: more) (by simp [hn, hmore])
  · exact yields_importedNames.bind hnames

/-! ## Exports -/

theorem yields_noteIfOutermost {names : List (List Nat)} :
    Yields text (noteIfOutermost s names) fun _ => True := by
  unfold noteIfOutermost
  exact .ite yields_noteExports (.pure trivial)

theorem yields_exportSpecifier : Yields text exportSpecifier fun p => p.1.Placed text := by
  unfold exportSpecifier
  refine yields_peek.bind fun t ht => yields_moduleName.bind ?_
  intro ⟨localName, _⟩ (hlocal : localName.Placed text)
  refine yields_acceptWord.bind fun _ _ => .ite ?_ ?_
  · refine yields_moduleName.bind ?_
    intro ⟨exported, _⟩ (hexported : exported.Placed text)
    exact .bind (yields_finish rfl ht.start (by simp [hlocal, hexported])) fun n hn => .pure hn
  · exact .bind (yields_finish rfl ht.start (by simp [hlocal])) fun n hn => .pure hn

theorem yields_classComes : Yields text classComes fun _ => True := by
  unfold classComes
  exact yields_peek.bind fun _ _ => .pure trivial

theorem yields_exportNames {start : Nat} (hstart : IsBoundary text start) :
    Yields text (exportNames s start) (Node.Placed text) := by
  unfold exportNames
  refine (yields_inBraces yields_exportSpecifier).bind fun items hitems => ?_
  have hnodes : Node.AllPlaced text (items.map Prod.fst) := by
    intro n hn
    obtain ⟨p, hp, rfl⟩ := List.mem_map.1 hn
    exact hitems p hp
  refine yields_peek.bind fun _ _ => ?_
  extract_lets afterSource
  have hsource : ∀ source, Node.AllPlaced text source →
      Yields text (afterSource source) (Node.Placed text) := by
    intro source hsource
    refine yields_endStatement.bind fun _ _ => yields_noteIfOutermost.bind fun _ _ => ?_
    exact yields_finish rfl hstart (by simp [hnodes, hsource])
  refine .ite (yields_fromModule.bind hsource) ?_
  exact yields_guard.bind fun _ _ => hsource [] Node.allPlaced_nil

theorem yields_exportAll {start : Nat} (hstart : IsBoundary text start) :
    Yields text (exportAll s start) (Node.Placed text) := by
  unfold exportAll
  refine yields_advance.bind fun _ _ => yields_acceptWord.bind fun _ _ => ?_
  extract_lets afterNames
  have hnames : ∀ names, Node.AllPlaced text names →
      Yields text (afterNames names) (Node.Placed text) := by
    intro names hnames
    refine yields_fromModule.bind fun source hsource => yields_endStatement.bind fun _ _ => ?_
    exact yields_finish rfl hstart (by simp [hnames, hsource])
  refine .ite ?_ (hnames [] Node.allPlaced_nil)
  refine yields_moduleName.bind fun ⟨n, _⟩ hn => yields_noteIfOutermost.bind fun _ _ => ?_
  exact hnames [n] (Node.allPlaced_cons.2 ⟨hn, Node.allPlaced_nil⟩)

section

variable (hg : g.Places text)
include hg

theorem yields_exportedClass {ds : List Node} {needsName : Bool}
    (hds : Node.AllPlaced text ds) :
    Yields text (exportedClass g s ds needsName) (Node.Placed text) := by
  unfold exportedClass
  refine yields_here.bind fun start hstart => ?_
  extract_lets afterOwn
  have hown : ∀ own, Node.AllPlaced text own → Yields text (afterOwn own) (Node.Placed text) :=
    fun own hown => yields_classRest hg hstart (by simp [hds, hown])
  exact .ite ((yields_decorators hg).bind hown) (hown [] Node.allPlaced_nil)

theorem yields_exportDefault {start : Nat} {ds : List Node} (hstart : IsBoundary text start)
    (hds : Node.AllPlaced text ds) :
    Yields text (exportDefault g s start ds) (Node.Placed text) := by
  unfold exportDefault
  refine yields_noteIfOutermost.bind fun _ _ => yields_classComes.bind fun _ _ => .ite ?_ ?_
  · refine (yields_exportedClass hg hds).bind fun c hc => ?_
    exact yields_finish rfl hstart (by simp [hc])
  refine yields_peek.bind fun _ _ => yields_asyncFunctionComes.bind fun _ _ => .ite ?_ ?_
  · refine (yields_functionDeclaration hg).bind fun f hf => ?_
    exact yields_finish rfl hstart (by simp [hf])
  · refine (hg _ _).bind fun e he => yields_endStatement.bind fun _ _ => ?_
    exact yields_finish rfl hstart (by simp [he])

theorem yields_exportDeclared {start : Nat} {ds : List Node} (hstart : IsBoundary text start)
    (hds : Node.AllPlaced text ds) :
    Yields text (exportDeclared g s start ds) (Node.Placed text) := by
  unfold exportDeclared
  refine yields_classComes.bind fun _ _ => ?_
  extract_lets afterDeclaration
  have hdeclaration : ∀ d, d.Placed text →
      Yields text (afterDeclaration d) (Node.Placed text) := fun d hd =>
    yields_noteIfOutermost.bind fun _ _ => yields_finish rfl hstart (by simp [hd])
  refine .ite ((yields_exportedClass hg hds).bind hdeclaration) ?_
  refine yields_peek.bind fun _ _ => yields_asyncFunctionComes.bind fun _ _ => ?_
  refine .ite ((yields_functionDeclaration hg).bind hdeclaration) ?_
  refine yields_declarationAhead.bind fun how _ => ?_
  split
  · refine yields_guard.bind fun _ _ => (yields_variableList hg).bind fun d hd => ?_
    exact yields_endStatement.bind fun _ _ => hdeclaration d hd
  · exact .fail_bind

theorem yields_exportDeclaration {ds : List Node} (hds : Node.AllPlaced text ds) :
    Yields text (exportDeclaration g s ds) (Node.Placed text) := by
  unfold exportDeclaration
  refine yields_here.bind fun start hstart => yields_expectWord.bind fun _ _ => ?_
  refine yields_peek.bind fun _ _ => yields_acceptWord.bind fun _ _ => ?_
  refine .ite (yields_exportDefault hg hstart hds) (.ite (yields_exportDeclared hg hstart hds) ?_)
  refine .ite (yields_exportAll hstart) (.ite (yields_exportNames hstart) ?_)
  exact yields_exportDeclared hg hstart hds

end

end EditionCheck.Script
