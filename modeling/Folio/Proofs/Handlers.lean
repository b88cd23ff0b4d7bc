import Folio.App
import Folio.Proofs.Direct

/-!
# Handlers and their keys

A handler is registered under a key, and an operation calls the handler whose key its reference has.
One path can be spelt in many ways, with backslashes for slashes and with slashes at its ends; all
of them lead to one key. Since a name has no slash in it, the last slash of a key tells the path
from the name, so that references that differ in more than the spelling never meet under one key.

* `Path.Spells`: the place that a path spells, which is what its key is made of
  (`FileRef.normalPath_eq`);
* `FileRef.key_eq_iff`: which references have the same key;
* `Registry.get?_register_self`, `Registry.get?_register_of_ne`: what is found among handlers once
  there is one more;
* `FileRef.key_identifies`: the handler that a reference leads to.
-/

namespace Folio

/-! ## Spellings of a path -/

/-- The characters of a path, with slashes for backslashes. -/
def Path.slashed (p : Path) : List Char := p.text.toList.map fun c => if c = '\\' then '/' else c

/-- A path spells a place: with slashes for backslashes it is the place, and any number of slashes
    on both sides of it. The place itself has none at its ends. -/
structure Path.Spells (p : Path) (place : List Char) : Prop where
  slashed_eq : ∃ m n, p.slashed = List.replicate m '/' ++ place ++ List.replicate n '/'
  head : place.head? ≠ some '/'
  last : place.getLast? ≠ some '/'

namespace FileRef

/-- Characters without the slashes in front. -/
def dropSlashes (s : List Char) : List Char := s.dropWhile (· == '/')

theorem dropSlashes_of_head? {s : List Char} (h : s.head? ≠ some '/') : dropSlashes s = s := by
  cases s with
  | nil => rfl
  | cons c s => exact List.dropWhile_cons_of_neg (by simpa using h)

/-- What is left is known by what is dropped: slashes, up to the first character that is none. -/
theorem dropSlashes_eq {s t : List Char} :
    dropSlashes s = t ↔ (∃ n, s = List.replicate n '/' ++ t) ∧ t.head? ≠ some '/' := by
  constructor
  · rintro rfl
    induction s with
    | nil => exact ⟨⟨0, rfl⟩, nofun⟩
    | cons c s ih =>
      by_cases hc : c = '/'
      · obtain ⟨⟨n, hn⟩, hhead⟩ := ih
        have hdrop : dropSlashes (c :: s) = dropSlashes s :=
          List.dropWhile_cons_of_pos (by simp [hc])
        rw [hdrop]
        exact ⟨⟨n + 1, by rw [List.replicate_succ, List.cons_append, ← hn, hc]⟩, hhead⟩
      · have hhead : (c :: s).head? ≠ some '/' := by simpa using hc
        rw [dropSlashes_of_head? hhead]
        exact ⟨⟨0, rfl⟩, hhead⟩
  · rintro ⟨⟨n, rfl⟩, hhead⟩
    have hslashes : ∀ c ∈ List.replicate n '/', (c == '/') = true := fun c hc =>
      beq_iff_eq.2 (List.eq_of_mem_replicate hc)
    rw [dropSlashes, List.dropWhile_append_of_pos hslashes]
    exact dropSlashes_of_head? hhead

/-- What is made of a path is the one place that it spells. -/
theorem normalPath_eq {p : Path} {place : List Char} : normalPath p = place ↔ p.Spells place := by
  have htrim : normalPath p = place ↔ dropSlashes (dropSlashes p.slashed).reverse = place.reverse :=
    List.reverse_eq_iff
  rw [htrim, dropSlashes_eq, List.head?_reverse]
  constructor
  · rintro ⟨⟨n, hback⟩, hlast⟩
    have hback : dropSlashes p.slashed = place ++ List.replicate n '/' := by
      simpa using congrArg List.reverse hback
    obtain ⟨⟨m, hfront⟩, hhead⟩ := dropSlashes_eq.1 hback
    refine ⟨⟨m, n, by rw [hfront, List.append_assoc]⟩, ?_, hlast⟩
    cases place with
    | nil => nofun
    | cons c rest => exact hhead
  · rintro ⟨⟨m, n, hslashed⟩, hhead, hlast⟩
    cases place with
    | nil =>
      -- There are only slashes, and all of them go at once.
      have hnone : dropSlashes p.slashed = [] :=
        dropSlashes_eq.2 ⟨⟨m + n, by simp [hslashed, List.replicate_append_replicate]⟩, nofun⟩
      exact ⟨⟨0, by rw [hnone]; rfl⟩, nofun⟩
    | cons c rest =>
      have hback : dropSlashes p.slashed = c :: rest ++ List.replicate n '/' :=
        dropSlashes_eq.2 ⟨⟨m, by rw [hslashed, List.append_assoc]⟩, hhead⟩
      exact ⟨⟨n, by rw [hback, List.reverse_append, List.reverse_replicate]⟩, hlast⟩

instance (p : Path) (place : List Char) : Decidable (p.Spells place) :=
  decidable_of_iff _ normalPath_eq

/-! ## Keys -/

/-- Two references differ at most in how their paths are spelt. -/
def SameTarget (a b : FileRef) : Prop :=
  a.name = b.name ∧ ∃ place, a.path.Spells place ∧ b.path.Spells place

theorem sameTarget_iff {a b : FileRef} :
    a.SameTarget b ↔ a.name = b.name ∧ normalPath a.path = normalPath b.path := by
  refine and_congr_right' ⟨fun ⟨place, ha, hb⟩ => ?_, fun h => ?_⟩
  · exact (normalPath_eq.2 ha).trans (normalPath_eq.2 hb).symm
  · exact ⟨normalPath b.path, normalPath_eq.1 h, normalPath_eq.1 rfl⟩

instance (a b : FileRef) : Decidable (a.SameTarget b) := decidable_of_iff _ sameTarget_iff.symm

/-- The last slash tells what stands before it from what follows. -/
theorem append_slash_inj {front front' back back' : List Char} (h : '/' ∉ back)
    (h' : '/' ∉ back') :
    front ++ '/' :: back = front' ++ '/' :: back' ↔ front = front' ∧ back = back' := by
  refine ⟨fun heq => ?_, fun ⟨hfront, hback⟩ => by rw [hfront, hback]⟩
  -- If one front is longer, the other text has a slash behind its last one.
  rcases List.append_eq_append_iff.1 heq with ⟨more, hfront, hmore⟩ | ⟨more, hfront, hmore⟩
  · cases more with
    | nil => exact ⟨by rw [hfront, List.append_nil], (List.cons.inj hmore).2⟩
    | cons c more => exact absurd (by simp [(List.cons.inj hmore).2]) h
  · cases more with
    | nil => exact ⟨by rw [hfront, List.append_nil], (List.cons.inj hmore).2.symm⟩
    | cons c more => exact absurd (by simp [(List.cons.inj hmore).2]) h'

/-- The characters of a key. -/
theorem toList_key (ref : FileRef) :
    ref.key.toList = if normalPath ref.path = [] then ref.name.toList
      else normalPath ref.path ++ '/' :: ref.name.toList := by
  rw [key]
  cases normalPath ref.path <;> simp

/-- References have the same key exactly if they differ at most in how their paths are spelt. -/
theorem key_eq_iff {a b : FileRef} (ha : '/' ∉ a.name.toList) (hb : '/' ∉ b.name.toList) :
    a.key = b.key ↔ a.SameTarget b := by
  rw [sameTarget_iff, ← String.toList_inj, ← String.toList_inj, toList_key, toList_key]
  by_cases hpa : normalPath a.path = [] <;> by_cases hpb : normalPath b.path = []
  · simp [hpa, hpb]
  · -- A name alone has no slash in it, and any other key has one.
    rw [if_pos hpa, if_neg hpb]
    refine iff_of_false (fun h => ha ?_) fun h => hpb (h.2 ▸ hpa)
    simp [h]
  · rw [if_neg hpa, if_pos hpb]
    refine iff_of_false (fun h => hb ?_) fun h => hpa (h.2 ▸ hpb)
    simp [← h]
  · rw [if_neg hpa, if_neg hpb, append_slash_inj ha hb, and_comm]

/-- With a slash in a name, one key can belong to two references. -/
example : (mk ⟨"menus"⟩ "main").key = (mk ⟨""⟩ "menus/main").key := by decide

end FileRef

/-! ## Registered handlers -/

namespace Registry

theorem find?_put_self (key : String) (handler : Handler) (l : List (String × Handler)) :
    (put key handler l).find? (fun e => e.1 == key) = some (key, handler) := by
  induction l with
  | nil => exact List.find?_cons_of_pos (beq_self_eq_true key)
  | cons e l ih =>
    obtain ⟨k, g⟩ := e
    rw [put]
    -- The entry goes in front of the first one, over it, or somewhere behind it.
    split
    · exact List.find?_cons_of_pos (beq_self_eq_true key)
    · split
      · exact List.find?_cons_of_pos (beq_self_eq_true key)
      · rename_i hk
        rw [List.find?_cons_of_neg (by simpa using Ne.symm hk), ih]

theorem find?_put_of_ne {key key' : String} (h : key ≠ key') (handler : Handler)
    (l : List (String × Handler)) :
    (put key handler l).find? (fun e => e.1 == key') = l.find? fun e => e.1 == key' := by
  induction l with
  | nil => exact List.find?_cons_of_neg (by simpa using h)
  | cons e l ih =>
    obtain ⟨k, g⟩ := e
    rw [put]
    split
    · exact List.find?_cons_of_neg (by simpa using h)
    · split
      · rename_i hk
        rw [List.find?_cons_of_neg (by simpa using h),
          List.find?_cons_of_neg (by simpa [← hk] using h)]
      · rw [List.find?_cons, List.find?_cons, ih]

theorem get?_register_self (r : Registry) (key : String) (handler : Handler) :
    (r.register key handler).get? key = some handler := by
  rw [get?, register, find?_put_self]
  rfl

/-- Under other keys the same handlers are found as before. -/
theorem get?_register_of_ne (r : Registry) {key key' : String} (h : key ≠ key')
    (handler : Handler) : (r.register key handler).get? key' = r.get? key' := by
  rw [get?, register, find?_put_of_ne h, get?]

end Registry

/-- The application with one more handler, or another one, under a key. -/
def App.withHandler (app : App) (key : String) (handler : Handler) : App :=
  { app with handlers := app.handlers.register key handler }

/-- The application of a bare host. -/
def App.bare : App where
  root := ⟨"/project"⟩
  settings := { folders := { file := Host.bare.contentFolder } }
  fileText := Host.bare.fileText
  renderers := {
    template := Host.bare.renderTemplate
    markdown _ := Host.bare.renderMarkdown
    style := Host.bare.compileStyle
    data := Host.bare.readData }

/-- What an operation makes of the handler that is found for its reference, if there is one. -/
def Context.answered (ctx : Context) (op : Operation) (target : FileRef) (j : Journal) :
    Option Handler → Except Failure Json × Journal
  | none => (.error (.ofEngine (.customHandlerNotFound target.key)), j)
  | some handler =>
    let answer := handler
      { resource := ctx.name, depth := ctx.depth, input := ctx.input.getD .null
        operation := op, target }
    (answer.result, j.addCall target.key answer.reads)

theorem Context.runCustom_eq {host : Host} {ctx : Context} {op : Operation} {target : FileRef}
    {j : Journal} (h : FileRef.ofOperation .custom op = .ok target) :
    ctx.runCustom host op j = ctx.answered op target j (host.handler? target.key) := by
  rw [runCustom, h]
  dsimp only
  cases host.handler? target.key <;> rfl

/-- References that differ at most in how their paths are spelt have the same key, and no others
    have. So an operation calls the handler that is registered for any spelling of its reference,
    and a handler that is registered for another reference changes nothing for it. -/
theorem FileRef.key_identifies {a b : FileRef} (ha : '/' ∉ a.name.toList)
    (hb : '/' ∉ b.name.toList) :
    (a.key = b.key ↔ a.SameTarget b) ∧
      ∀ (app : App) (ctx : Context) (op : Operation) (j : Journal), ofOperation .custom op = .ok b →
        (a.SameTarget b →
          ctx.runCustom app.host op j = ctx.answered op b j (app.handlers.get? a.key) ∧
            ∀ handler, ctx.runCustom (app.withHandler a.key handler).host op j =
              ctx.answered op b j (some handler)) ∧
        (¬a.SameTarget b → ∀ handler,
          ctx.runCustom (app.withHandler a.key handler).host op j =
            ctx.runCustom app.host op j) := by
  refine ⟨key_eq_iff ha hb, fun app ctx op j hop => ⟨fun hsame => ?_, fun hother handler => ?_⟩⟩
  · have hkey : b.key = a.key := ((key_eq_iff ha hb).2 hsame).symm
    have hfound (app : App) : ctx.runCustom app.host op j =
        ctx.answered op b j (app.handlers.get? a.key) := hkey ▸ Context.runCustom_eq hop
    refine ⟨hfound app, fun handler => ?_⟩
    rw [hfound, App.withHandler, Registry.get?_register_self]
  · have hkey : a.key ≠ b.key := fun h => hother ((key_eq_iff ha hb).1 h)
    have hkept : (app.withHandler a.key handler).host.handler? b.key = app.host.handler? b.key :=
      Registry.get?_register_of_ne app.handlers hkey handler
    rw [Context.runCustom_eq hop, Context.runCustom_eq hop, hkept]

/-- A handler is reached by another spelling of its path, and not by a name with a backslash for the
    last slash of its key: backslashes count as slashes in paths only. -/
theorem FileRef.key_identifies_menu :
    let a : FileRef := ⟨⟨"\\menus\\top/"⟩, "main"⟩
    let b : FileRef := ⟨⟨"//menus/top"⟩, "main"⟩
    let c : FileRef := ⟨⟨"menus"⟩, "top\\main"⟩
    let op : Operation := { directives := [("custom", .arr [.str "//menus/top", .str "main"])] }
    let ctx : Context := .root "page" .null [op]
    let j : Journal := ⟨.root "page", [], []⟩
    let handler : Handler := fun call => { result := .ok (.str call.target.path.text) }
    ('/' ∉ a.name.toList ∧ '/' ∉ b.name.toList ∧ '/' ∉ c.name.toList) ∧
      ofOperation .custom op = .ok b ∧ a.SameTarget b ∧ ¬c.SameTarget b ∧
      a.key = b.key ∧ c.key ≠ b.key ∧
      ctx.runCustom (App.bare.withHandler a.key handler).host op j =
        (.ok (.str "//menus/top"), { j with calls := ["menus/top/main"] }) ∧
      ctx.runCustom (App.bare.withHandler c.key handler).host op j =
        (.error (.ofEngine (.customHandlerNotFound "menus/top/main")), j) := by
  intro a b c op ctx j handler
  have hnames : '/' ∉ a.name.toList ∧ '/' ∉ b.name.toList ∧ '/' ∉ c.name.toList := by decide
  have hop : ofOperation .custom op = .ok b := by rfl
  have hsame : a.SameTarget b := by decide
  have hother : ¬c.SameTarget b := by decide
  have hkey : b.key = "menus/top/main" := by decide
  have hanswer : ctx.answered op b j (some handler) =
      (.ok (.str "//menus/top"), { j with calls := ["menus/top/main"] }) := by
    rw [Context.answered, hkey]
    rfl
  have hmissing : ctx.runCustom App.bare.host op j =
      (.error (.ofEngine (.customHandlerNotFound "menus/top/main")), j) := by
    rfl
  obtain ⟨ha, hb, hc⟩ := hnames
  have hab := key_identifies ha hb
  have hcb := key_identifies hc hb
  refine ⟨⟨ha, hb, hc⟩, hop, hsame, hother, hab.1.2 hsame, fun h => hother (hcb.1.1 h), ?_, ?_⟩
  · exact (((hab.2 .bare ctx op j hop).1 hsame).2 handler).trans hanswer
  · exact ((hcb.2 .bare ctx op j hop).2 hother handler).trans hmissing

end Folio
