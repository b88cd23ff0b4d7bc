import Mathlib
import Folio.Proofs.Naming
import Folio.Template.Renderer

/-!
# Lines under two names

The line of a fault is that of the first mark in its words, and the outermost words of a fault quote
the name of the template. So a name with a mark in it is taken for a line, whatever the template is.
A name without one leaves the line alone: a template that asks for no other one has the same text or
the same line under all such names.

* `Template.standAlone`: nodes that ask for no other template;
* `Template.Renderer.nodes_agree`: what such nodes render under two names;
* `Template.renderSource_agree`: what a template renders under two names;
* `Template.render_line`: the line of its fault.
-/

namespace Folio.Template

open Result

variable {name name' : String}

/-! ## Nodes that ask for no other template -/

mutual

/-- Whether no other template is asked for by a node. -/
def Node.standsAlone : Node → Bool
  | .inclusion .. | .definitionsOf .. | .extension .. => false
  | .branches all none _ => branchesStandAlone all
  | .branches all (some (_, body)) _ => branchesStandAlone all && standAlone body
  | .loop _ _ _ _ body none _ => standAlone body
  | .loop _ _ _ _ body (some ifEmpty) _ => standAlone body && standAlone ifEmpty
  | .filtered _ _ body _ | .block _ _ body _ | .definition _ _ _ body _ => standAlone body
  | _ => true

/-- Whether no other template is asked for by nodes. -/
def standAlone : List Node → Bool
  | [] => true
  | n :: rest => n.standsAlone && standAlone rest

/-- Whether no other template is asked for by branches. -/
def branchesStandAlone : List (Trim × Expr × List Node) → Bool
  | [] => true
  | (_, _, body) :: rest => standAlone body && branchesStandAlone rest

end

theorem standAlone_iff {nodes : List Node} :
    standAlone nodes = true ↔ ∀ n ∈ nodes, n.standsAlone = true := by
  induction nodes with
  | nil => simp [standAlone]
  | cons n rest ih => simp [standAlone, ih]

namespace Document

variable {t : Document}

theorem parent?_eq_none (h : standAlone t.nodes = true) : t.parent? = none := by
  refine List.findSome?_eq_none_iff.2 fun n hn => ?_
  have h := standAlone_iff.1 h n hn
  cases n with
  | extension => cases h
  | _ => rfl

theorem sources_eq_nil (h : standAlone t.nodes = true) : t.sources = [] := by
  refine List.filterMap_eq_nil_iff.2 fun n hn => ?_
  have h := standAlone_iff.1 h n hn
  cases n with
  | definitionsOf => cases h
  | _ => rfl

theorem standAlone_body (h : standAlone t.nodes = true) {d : Definition}
    (hd : d ∈ t.definitions) : standAlone d.body = true := by
  obtain ⟨n, hn, hd⟩ := List.mem_filterMap.1 hd
  have h := standAlone_iff.1 h n hn
  cases n with
  | definition =>
    cases hd
    exact h
  | _ => cases hd

end Document

/-! ## Rendering under two names -/

namespace Renderer

variable {r r' : Renderer}

theorem rounds_agree {body body' : Frames → Except Fault Rendered}
    (hbody : ∀ frames, Agrees name name' (body frames) (body' frames)) (key : Option String)
    (itemName : String) (count index : Nat) (frames : Frames) (items : List (String × Json)) :
    Agrees name name' (rounds body key itemName count index frames items)
      (rounds body' key itemName count index frames items) := by
  induction items generalizing index frames with
  | nil => exact .refl _
  | cons item rest ih =>
    refine ((hbody _).within .other).bind fun done => ?_
    dsimp only
    split
    · exact .refl _
    · exact (ih _ _).bind fun _ => .refl _

theorem containerItems_agree (h : Setting.Agree name name' r.setting r'.setting) (frames : Frames)
    (key : Option String) (container : Expr) :
    Agrees name name' (node.containerItems r frames key container)
      (node.containerItems r' frames key container) :=
  (Agrees.refl _).bind fun _ =>
    ((Setting.readings_agree h frames container).value false).bind fun _ => .refl _

mutual

theorem node_agree (h : Setting.Agree name name' r.setting r'.setting) (escapes : Bool)
    (frames : Frames) : (n : Node) → n.standsAlone = true →
      Agrees name name' (r.node escapes frames n) (r'.node escapes frames n)
  | .text _, _ | .verbatim .., _ | .comment _, _ | .definition .., _ | .leave .., _
  | .parentBlock, _ => .refl _
  | .print _ e, _ => ((Setting.readings_agree h frames e).value escapes).bind fun _ => .refl _
  | .bind _ _ _ e, _ => ((Setting.readings_agree h frames e).value false).bind fun _ => .refl _
  | .inclusion .., halone | .definitionsOf .., halone | .extension .., halone => nomatch halone
  | .branches all none _, halone => branch_agree h escapes frames (.refl _) all halone
  | .branches all (some (_, body)) _, halone => by
    obtain ⟨hall, hbody⟩ := Bool.and_eq_true_iff.1 halone
    exact branch_agree h escapes frames (nodes_agree h escapes frames body hbody) all hall
  | .loop _ key itemName container body none _, halone =>
    (containerItems_agree h frames key container).bind fun items =>
      rounds_agree (fun frames => nodes_agree h escapes frames body halone) key itemName
        items.length 0 frames items
  | .loop _ key itemName container body (some ifEmpty) _, halone => by
    obtain ⟨hbody, hempty⟩ := Bool.and_eq_true_iff.1 halone
    refine (containerItems_agree h frames key container).bind fun items => ?_
    split
    · exact nodes_agree h escapes frames ifEmpty hempty
    · exact rounds_agree (fun frames => nodes_agree h escapes frames body hbody) key itemName
        items.length 0 frames items
  | .filtered _ (.mk filter args) body _, halone =>
    (nodes_agree h escapes frames body halone).bind fun done =>
      have hstep : Step.Agree name name' ⟨filter, r.setting.readingsOfArgs done.frames args⟩
          ⟨filter, r'.setting.readingsOfArgs done.frames args⟩ :=
        ⟨rfl, Setting.readingsOfArgs_agree h done.frames args⟩
      (hstep.apply (.str done.text) false).bind fun _ => .refl _
  | .block _ _ body _, halone => nodes_agree h escapes frames body halone

theorem nodes_agree (h : Setting.Agree name name' r.setting r'.setting) (escapes : Bool)
    (frames : Frames) : (nodes : List Node) → standAlone nodes = true →
      Agrees name name' (r.nodes escapes frames nodes) (r'.nodes escapes frames nodes)
  | [], _ => .refl _
  | n :: rest, halone => by
    obtain ⟨hn, hrest⟩ := Bool.and_eq_true_iff.1 halone
    refine (node_agree h escapes frames n hn).bind fun done => ?_
    split
    · exact .refl _
    · exact (nodes_agree h escapes done.frames rest hrest).bind fun _ => .refl _

theorem branch_agree (h : Setting.Agree name name' r.setting r'.setting) (escapes : Bool)
    (frames : Frames) {otherwise otherwise' : Except Fault Rendered}
    (hotherwise : Agrees name name' otherwise otherwise') :
    (all : List (Trim × Expr × List Node)) → branchesStandAlone all = true →
      Agrees name name' (r.branch escapes frames otherwise all)
        (r'.branch escapes frames otherwise' all)
  | [], _ => hotherwise
  | (_, e, body) :: rest, halone => by
    obtain ⟨hbody, hrest⟩ := Bool.and_eq_true_iff.1 halone
    refine ((Setting.readings_agree h frames e).truth escapes).bind fun b => ?_
    split
    · exact nodes_agree h escapes frames body hbody
    · exact branch_agree h escapes frames hotherwise rest hrest

end

theorem arguments_agree (definition : String) {given given' : List (String × Except Fault Json)}
    (h : List.Forall₂ (Keyed (Agrees name name')) given given') (parameters : Parameters) :
    Agrees name name' (arguments definition given parameters)
      (arguments definition given' parameters) := by
  induction parameters with
  | nil => exact .refl _
  | cons parameter rest ih =>
    obtain ⟨parameter, absent⟩ := parameter
    have hrest (v : Json) : Agrees name name'
        (do return Json.Fields.insert parameter v (← arguments definition given rest))
        (do return Json.Fields.insert parameter v (← arguments definition given' rest)) :=
      ih.bind fun _ => .refl _
    unfold arguments
    dsimp only
    have hfound := Keyed.find? h parameter
    generalize given.find? _ = found at hfound
    generalize given'.find? _ = found' at hfound
    cases hfound with
    | some h => exact h.2.bind hrest
    | none =>
      -- The default, where there is one, is the same on both sides.
      cases absent with
      | none => exact (Agrees.refl _).bind hrest
      | some default => cases default <;> exact (Agrees.refl _).bind hrest

/-- Definitions are known by the same names, and the words for one that is not quote the name of
    the template. -/
theorem within_agree {nodes : List Node} (halone : standAlone nodes = true) (given : Json.Fields)
    (fuel : Nat) : Setting.Agree name name' (within ⟨name, nodes⟩ given fuel).setting
      (within ⟨name', nodes⟩ given fuel).setting := by
  induction fuel with
  | zero => exact ⟨rfl, rfl, rfl, fun _ _ _ _ _ _ => .refl _⟩
  | succ fuel ih =>
    -- The body of a definition is rendered one level further in.
    refine ⟨rfl, rfl, rfl, fun escapes space f args args' hargs => ?_⟩
    have hdefinitions : (⟨name', nodes⟩ : Document).definitions =
      (⟨name, nodes⟩ : Document).definitions := rfl
    dsimp only [within]
    rw [hdefinitions]
    split
    · exact .error (.of (.append (.quoting (.prepend ⟨'`', "` was not found in template ",
        .backward, rfl⟩ _) ⟨'`', ". ", .backward, rfl⟩) _))
    · cases hd : (⟨name, nodes⟩ : Document).definitions.find? fun d => d.name == f with
      | none =>
        exact .error (.of (.quoting (.prepend ⟨'`', "` not found in template ", .backward, rfl⟩ _)
          ⟨'`', "", .backward, rfl⟩))
      | some d =>
        have hbody := Document.standAlone_body halone (List.mem_of_find?_eq_some hd)
        exact (arguments_agree f hargs d.parameters).bind fun bindings =>
          ((nodes_agree ih escapes _ d.body hbody).within _).bind fun _ => .refl _

end Renderer

/-! ## Templates under two names -/

/-- Faults that say the same of two templates, and first of all quote their names, behind words
    without a mark. -/
structure Fault.Quoting (name name' : String) (f f' : Fault) : Prop where
  outermost : ∃ before after, Opens before ∧ Closes after ∧ wordsMark before = none ∧
    f.words.head? = some (before ++ name ++ after) ∧
    f'.words.head? = some (before ++ name' ++ after)
  inner : List.Forall₂ (Words name name') f.words.tail f'.words.tail

/-- The fault of a source that cannot be read. -/
def Fault.unreadable (template words : String) : Fault :=
  (Fault.of words).under s!"Failed to parse '{template}'"

/-- A source that cannot be read is refused in the same words under both names. -/
theorem Fault.Quoting.unreadable (words : String) :
    Fault.Quoting name name' (.unreadable name words) (.unreadable name' words) where
  outermost := ⟨"Failed to parse '", "'", ⟨'\'', "Failed to parse ", .single, rfl⟩,
    ⟨'\'', "", .single, rfl⟩, by decide, rfl, rfl⟩
  inner := .cons (.same words) .nil

/-- The words for where a fault arose quote the name. -/
theorem Fault.location_eq (f : Fault) : ∃ inside, ∀ template,
    f.location template = "Failed to render '" ++ template ++ ("'" ++ inside) :=
  ⟨_, fun _ => String.append_assoc⟩

/-- A fault while rendering is put behind the same words under both names. -/
theorem Fault.Quoting.location {f f' : Fault} (h : Fault.Agree name name' f f') :
    Fault.Quoting name name' (f.under (f.location name)) (f'.under (f'.location name')) := by
  obtain ⟨inside, hinside⟩ := f.location_eq
  have hsurroundings : f'.location name' = f.location name' := by
    unfold Fault.location
    rw [h.surroundings]
  rw [hsurroundings, hinside, hinside]
  exact ⟨⟨"Failed to render '", "'" ++ inside, ⟨'\'', "Failed to render ", .single, rfl⟩,
    ⟨'\'', inside, .single, rfl⟩, by decide, rfl, rfl⟩, h.words⟩

/-- A template that stands alone is read as the same nodes under both names. -/
theorem load_agree {source : String}
    (halone : ∀ nodes, read source = .ok nodes → standAlone nodes = true) :
    Matched (Fault.Quoting name name') (fun t t' => t.name = name ∧ t' = { t with name := name' } ∧
      standAlone t.nodes = true) (load name source) (load name' source) := by
  cases hread : read source with
  | error words =>
    simp only [load, hread, mapError_error, error_bind]
    exact .error (.unreadable words)
  | ok nodes =>
    have halone := halone nodes hread
    have hparent (name : String) : (⟨name, nodes⟩ : Document).parent? = none :=
      Document.parent?_eq_none halone
    have hsources (name : String) : (⟨name, nodes⟩ : Document).sources = [] :=
      Document.sources_eq_nil halone
    have hdefinitions : (⟨name', nodes⟩ : Document).definitions =
      (⟨name, nodes⟩ : Document).definitions := rfl
    simp only [load, hread, mapError_ok, ok_bind, hparent, hsources, hdefinitions]
    split
    · exact .error (.unreadable _)
    · split
      · exact .error (.unreadable _)
      · exact .ok ⟨rfl, rfl, halone⟩

/-- A template that stands alone has the same text under both names, or a fault in which each of
    them is quoted first. -/
theorem renderSource_agree {source : String}
    (halone : ∀ nodes, read source = .ok nodes → standAlone nodes = true) (escapes : Bool)
    (value : Option Json) :
    Matched (Fault.Quoting name name') Eq (renderSource escapes name source value)
      (renderSource escapes name' source value) := by
  refine (load_agree halone).bind ?_
  rintro ⟨name, nodes⟩ _ ⟨rfl, rfl, halone⟩
  -- The two templates differ in their names, and so do the settings that they are rendered in.
  have hsetting : Setting.Agree name name'
      (Renderer.within ⟨name, nodes⟩ (visibleValues value) maxDepth).setting
      (Renderer.within ⟨name', nodes⟩ (visibleValues value) maxDepth).setting :=
    Renderer.within_agree halone (visibleValues value) maxDepth
  have hnodes := Renderer.nodes_agree hsetting escapes [⟨.outermost, []⟩] nodes halone
  revert hnodes
  dsimp only
  generalize Renderer.nodes _ escapes _ nodes = r
  generalize Renderer.nodes _ escapes _ nodes = r'
  intro hnodes
  cases hnodes with
  | ok h => exact .ok (congrArg Rendered.text h)
  | error h => exact .error (.location h)

/-! ## Variables that are not there -/

/-- A variable that is not there cannot be read. -/
theorem Setting.lookup_eq_error {s : Setting} {frames : Frames} {path : String}
    (hname : path ≠ overviewName) (hlength : 0 < path.length)
    (hplain : path.toList.contains '[' = false) (hsearch : s.search frames path = none) :
    s.lookup frames path = .error (.of (missingWords path s.template)) := by
  obtain ⟨fuel, hfuel⟩ := Nat.exists_eq_add_one_of_ne_zero hlength.ne'
  rw [lookup, if_neg hname, hfuel, variableWithin, hplain, hsearch]
  rfl

/-- A variable that cannot be read cannot be printed. -/
theorem Renderer.nodes_print_error {r : Renderer} {frames : Frames} {path : String} {f : Fault}
    (h : r.setting.lookup frames path = .error f) (escapes : Bool) (trim : Trim) :
    r.nodes escapes frames [.print trim (.plain (.path path))] = .error f := by
  have hvalue : (r.setting.readings frames (.plain (.path path))).value escapes = .error f := by
    simp only [Expr.plain, Setting.readings, Setting.operandReadings, Setting.steps,
      Readings.ofExpr, Readings.ofValue, h]
    rfl
  rw [nodes, node, hvalue]
  rfl

/-! ## Lines -/

theorem Words.mark_eq {w w' : String} (h : Words name name' w w') (hname : wordsMark name = none)
    (hname' : wordsMark name' = none) : wordsMark w' = wordsMark w := by
  cases h with
  | same => rfl
  | quoting hbefore hafter =>
    rw [wordsMark_quoting hbefore hafter, wordsMark_quoting hbefore hafter, hname, hname']

theorem Words.findSome?_mark {words words' : List String}
    (h : List.Forall₂ (Words name name') words words') (hname : wordsMark name = none)
    (hname' : wordsMark name' = none) : words'.findSome? wordsMark = words.findSome? wordsMark := by
  induction h with
  | nil => rfl
  | cons hw _ ih => rw [List.findSome?_cons, List.findSome?_cons, hw.mark_eq hname hname', ih]

namespace Fault.Quoting

variable {f f' : Fault}

/-- A mark in the name comes before all others. -/
theorem line_eq_of_mark (h : Fault.Quoting name name' f f') {line : Option Nat}
    (hname' : wordsMark name' = some line) : f'.line = line := by
  obtain ⟨before, after, hbefore, hafter, hmark, -, houter⟩ := h.outermost
  obtain ⟨rest, hwords⟩ := List.head?_eq_some_iff.1 houter
  rw [line_eq, hwords, List.findSome?_cons, wordsMark_quoting hbefore hafter, hmark, hname']
  rfl

/-- Names without a mark leave the line to what stands around them. -/
theorem line_eq_of_unmarked (h : Fault.Quoting name name' f f') (hname : wordsMark name = none)
    (hname' : wordsMark name' = none) : f'.line = f.line := by
  obtain ⟨before, after, hbefore, hafter, -, houter, houter'⟩ := h.outermost
  obtain ⟨rest, hwords⟩ := List.head?_eq_some_iff.1 houter
  obtain ⟨rest', hwords'⟩ := List.head?_eq_some_iff.1 houter'
  have hrest := h.inner
  rw [hwords, hwords', List.tail_cons, List.tail_cons] at hrest
  have hrest := Words.findSome?_mark hrest hname hname'
  rw [Fault.line_eq, Fault.line_eq, hwords, hwords', List.findSome?_cons, List.findSome?_cons,
    wordsMark_quoting hbefore hafter, wordsMark_quoting hbefore hafter, hname, hname', hrest]

end Fault.Quoting

/-- The line that an error of a template reports. -/
def line? : TemplateError → Option Nat
  | .rendering _ _ line => line
  | .invalidContext .. => none

/-- A template that stands alone has the same text under each name. Where it has none, a mark in the
    name is taken for the line; under names without a mark it is the same line. -/
theorem render_line {source : String} (hname : wordsMark name = none)
    (halone : ∀ nodes, read source = .ok nodes → standAlone nodes = true) (escapes : Bool)
    (name' : String) (value : Option Json) :
    (render escapes name' source value).mapError line? =
      (render escapes name source value).mapError fun e => (wordsMark name').getD (line? e) := by
  have h : Matched (Fault.Quoting name name') Eq (renderSource escapes name source value)
      (renderSource escapes name' source value) := renderSource_agree halone escapes value
  rw [render, render]
  generalize renderSource escapes name source value = r at h
  generalize renderSource escapes name' source value = r' at h
  cases h with
  | ok h => exact congrArg Except.ok h.symm
  | @error f f' h =>
    simp only [mapError_error, line?]
    cases hmark : wordsMark name' with
    | none => rw [h.line_eq_of_unmarked hname hmark, Option.getD_none]
    | some line => rw [h.line_eq_of_mark hmark, Option.getD_some]

theorem read_missing : read "\x7b\x7b missing \x7d\x7d" =
    .ok [.print ⟨false, false⟩ (.plain (.path "missing"))] := by cbv

theorem standAlone_missing (nodes : List Node)
    (h : read "\x7b\x7b missing \x7d\x7d" = .ok nodes) : standAlone nodes = true := by
  rw [read_missing] at h
  cases h
  rfl

/-- The name `v3:14.njk` has line 3 in all its faults. -/
theorem render_line_marked : wordsMark "page" = none ∧ wordsMark "v3:14.njk" = some (some 3) ∧
    (render true "v3:14.njk" "\x7b\x7b missing \x7d\x7d" none).mapError line? =
      (render true "page" "\x7b\x7b missing \x7d\x7d" none).mapError fun _ => some 3 :=
  have hpage : wordsMark "page" = none := by decide
  have hmark : wordsMark "v3:14.njk" = some (some 3) := by decide
  ⟨hpage, hmark, (render_line hpage standAlone_missing true _ none).trans (by rw [hmark]; rfl)⟩

/-- The fault of a template that prints the variable `missing`, which is not there. -/
def missing (name : String) : Fault :=
  (Fault.of (missingWords "missing" name)).under s!"Failed to render '{name}'"

theorem renderSource_missing (name : String) :
    renderSource true name "\x7b\x7b missing \x7d\x7d" none =
      .error (missing name) := by
  have hload : load name "\x7b\x7b missing \x7d\x7d" =
      .ok ⟨name, [.print ⟨false, false⟩ (.plain (.path "missing"))]⟩ := by
    simp only [load, read_missing, mapError_ok, ok_bind]
    rfl
  have hlookup (fuel : Nat) (t : Document) :
      (Renderer.within t [] (fuel + 1)).setting.lookup [⟨.outermost, []⟩] "missing" =
        .error (.of (missingWords "missing" t.name)) :=
    Setting.lookup_eq_error (by decide) (by decide) (by decide) rfl
  obtain ⟨fuel, hfuel⟩ : ∃ fuel, maxDepth = fuel + 1 := ⟨1999, rfl⟩
  have hlocation (words : String) :
      (Fault.of words).location name = s!"Failed to render '{name}'" := String.append_empty
  rw [renderSource, hload, ok_bind, visibleValues, hfuel]
  dsimp only
  rw [Renderer.nodes_print_error (hlookup fuel _)]
  dsimp only
  rw [hlocation]
  rfl

/-- One and the same fault is said to be in line 3 of `v3:14.njk`, and in no line of `page`. -/
theorem render_line_of_name :
    (∃ message, render true "v3:14.njk" "\x7b\x7b missing \x7d\x7d" none =
      .error (.rendering "v3:14.njk" message (some 3))) ∧
    ∃ message, render true "page" "\x7b\x7b missing \x7d\x7d" none =
      .error (.rendering "page" message none) := by
  have hmarked : (missing "v3:14.njk").line = some 3 := by decide
  have hpage : (missing "page").line = none := by decide
  rw [render, renderSource_missing, render, renderSource_missing, mapError_error, mapError_error,
    hmarked, hpage]
  exact ⟨⟨_, rfl⟩, _, rfl⟩

end Folio.Template
