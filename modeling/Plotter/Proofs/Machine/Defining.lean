import Plotter.Proofs.Machine.Collecting
import Plotter.Proofs.Script.Recognition
import Plotter.Surface.Recording

/-!
# Definitions

A definition is a header, the lines of the method and a closing line.  Between the two no line is
executed, counted or checked, whatever it is: loops and conditionals need not be closed, words need
not be known.  Only a line that opens or closes a definition is not a line of the method.  The gate
is not looked at either, so a method in a branch that is not taken is defined like any other.

## Main result

`definition_enters_method`: a definition that is fed between two lines enters its method and does
nothing else, so definitions of different methods may be fed in any order.

## Proof strategy

The header opens a block, every line of the method is kept in it (`Collects.keepAll`), and the
closing line enters what was kept.  Each part leads from one machine to the next, up to the journal.
-/

namespace Plotter

/-- The lines that define a method. -/
structure Definition where
  header : Line
  signature : Header
  body : List Line
  closing : Line
  tidyHeader : header.Tidy
  parsed : Header.parse? header.text = some signature
  tidyBody : ∀ line ∈ body, line.Tidy
  inside : ∀ line ∈ body, line.isOf .method = false
  closes : closing.closes .method = true

namespace Definition

def lines (d : Definition) : List Line := d.header :: d.body ++ [d.closing]

/-- The method with the lines as they are written. -/
def method (d : Definition) : Method := ⟨d.signature.name, d.signature.parameters, d.body⟩

/-- A line that is read as a header starts with the keyword. -/
theorem opens (d : Definition) : d.header.opens .method = true := by
  obtain ⟨word, arguments, cut, found⟩ := Statement.words_of_header
    ((Header.parse?_eq_some_iff_of_trimmed d.tidyHeader.trimmed).mp d.parsed)
  simp [Line.opens, Line.keyword?, Line.words, cut, found]

end Definition

namespace Machine

variable {ε : Type} {m : Machine ε} {line : Line}

/-- The closing line enters the method with the lines that were kept. -/
theorem leads_of_endMethod (settings : Settings) {block : Block (Option Header)} {header : Header}
    (defining : m.state.mode = .method block) (headed : block.header = some header)
    (live : block.discarded = false) (outermost : block.nested = 0)
    (closes : line.closes .method = true) :
    Leads settings [line] m ((m.inMode .idle).modifyState fun s =>
      s.define ⟨header.name, header.parameters, block.body⟩) := by
  obtain ⟨arguments, read⟩ := Statement.classify_of_closes closes
  let method : Method := ⟨header.name, header.parameters, block.body⟩
  let noted := m.log {} (.line (Mode.method block).activity line.text)
  have closed : take settings line m =
      (((noted.inMode .idle).modifyState fun s => s.define method).log {}
        (.defined method)).done := by
    simp [take_eq, stepWith, classified, read, defining, collect, outermost, live, closeMethod,
      headed, noted, method, inMode]
  exact .of_done closed ⟨rfl, rfl⟩

/-- A definition leads to the machine that has the method, and is otherwise the same. -/
theorem leads_of_definition (settings : Settings) (idle : m.state.mode = .idle)
    (d : Definition) : Leads settings d.lines m (m.modifyState fun s => s.define d.method) := by
  let opened : Block (Option Header) := { header := some d.signature, openedAt := d.header }
  let filled : Block (Option Header) := { opened with body := d.body }
  have first : Leads settings [d.header] m (m.inMode (.method opened)) :=
    leads_of_method settings idle d.opens d.parsed
  have kept : Leads settings d.body (m.inMode (.method opened)) (m.inMode (.method filled)) :=
    Collects.keepAll (collects_method settings) (m := m.inMode (.method opened)) rfl rfl
      d.tidyBody d.inside
  have last : Leads settings [d.closing] (m.inMode (.method filled))
      ((m.inMode .idle).modifyState fun s => s.define d.method) :=
    leads_of_endMethod settings (m := m.inMode (.method filled)) rfl rfl rfl rfl d.closes
  rw [inMode_self idle] at last
  exact first.cons (kept.append last)

/-- A definition enters its method in the place of an earlier one of that name.  It is fed without
a failure, and nothing else changes: not the surface, nor any other part of the state, to which the
diagnostics belong.  Two definitions of different methods give every name the same method in
either order. -/
theorem definition_enters_method (settings : Settings) (idle : m.state.mode = .idle) :
    (∀ d : Definition, ∃ last, feedLines settings d.lines m = (last, none) ∧
      last.surface = m.surface ∧ last.state = m.state.define d.method ∧
      ∀ name, last.state.methods.get? name =
        if d.signature.name = name then some d.method else m.state.methods.get? name) ∧
    ∀ d e : Definition, d.signature.name ≠ e.signature.name →
      ∃ last other, feedLines settings (d.lines ++ e.lines) m = (last, none) ∧
        feedLines settings (e.lines ++ d.lines) m = (other, none) ∧
        ∀ name, last.state.methods.get? name = other.state.methods.get? name := by
  have both (d e : Definition) : ∃ last, feedLines settings (d.lines ++ e.lines) m = (last, none) ∧
      last.state = (m.state.define d.method).define e.method := by
    obtain ⟨last, fed, alike⟩ := (leads_of_definition settings idle d).append
      (leads_of_definition settings (m := m.modifyState fun s => s.define d.method) idle e)
    exact ⟨last, fed, alike.state⟩
  constructor
  · intro d
    obtain ⟨last, fed, alike⟩ := leads_of_definition settings idle d
    refine ⟨last, fed, alike.surface, alike.state, fun name => ?_⟩
    rw [alike.state]
    exact Dictionary.get?_set ..
  · intro d e different
    obtain ⟨last, fed, state⟩ := both d e
    obtain ⟨other, fed', state'⟩ := both e d
    refine ⟨last, other, fed, fed', fun name => ?_⟩
    rw [state, state']
    simp only [State.define, Dictionary.get?_set, Definition.method]
    by_cases here : d.signature.name = name
    · have elsewhere : e.signature.name ≠ name := fun there => different (here.trans there.symm)
      simp only [if_pos here, if_neg elsewhere]
    · simp only [if_neg here]

/-- Two definitions under a closed gate, with lines that would end in faults. -/
theorem definition_enters_method_under_closed_gate :
    let m := (feed {} "x = 1\nif x > 2".toList none (create {} Recording.surface)).1
    let square : Definition :=
      { header := .ofString "METHOD square(size)".toList
        signature := ⟨"square".toList, ["size".toList]⟩
        body := [.ofString "endloop".toList, .ofString "loop many".toList, .ofString "?!".toList]
        closing := .ofString "endmethod".toList
        tidyHeader := by decide, parsed := by decide, tidyBody := by decide, inside := by decide
        closes := by decide }
    let star : Definition :=
      { header := .ofString "method star".toList
        signature := ⟨"star".toList, []⟩
        body := [.ofString "if".toList, .ofString "square(1, 2)".toList]
        closing := .ofString "endmethod".toList
        tidyHeader := by decide, parsed := by decide, tidyBody := by decide, inside := by decide
        closes := by decide }
    m.state.mode = .idle ∧ m.state.gateOpen = false ∧
      (∃ last, feedLines {} square.lines m = (last, none) ∧ last.state.gateOpen = false ∧
        last.state.methods.get? "square".toList = some square.method) ∧
      ∃ last other, feedLines {} (square.lines ++ star.lines) m = (last, none) ∧
        feedLines {} (star.lines ++ square.lines) m = (other, none) ∧
        ∀ name, last.state.methods.get? name = other.state.methods.get? name := by
  intro m square star
  have closed : m.state.gateOpen = false := by decide +kernel
  have idle : m.state.mode = .idle := Mode.eq_idle (by decide +kernel)
  clear_value m
  obtain ⟨alone, together⟩ := definition_enters_method {} idle
  obtain ⟨last, fed, _, state, found⟩ := alone square
  refine ⟨idle, closed, ⟨last, fed, ?_, ?_⟩, together square star (by decide)⟩
  · rw [state]
    exact closed
  · rw [found]
    exact if_pos rfl

end Machine

end Plotter
