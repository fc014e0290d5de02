import WidgetLocator.Proofs.Path.Relocation
import WidgetLocator.Proofs.Record.Chain

/-! Paths one after the other. Two sources with blanks between them are read as the steps of both, and
the locators of the second path are nested in the last locator of the first. -/

namespace WidgetLocator

open WidgetLocator.Path Text Token Grammar

namespace Record

/-- The locator with its whole path below the identifier. -/
def under (top : String) (r : Record) : Record where
  id := top ++ "_" ++ r.id
  metadata := r.metadata
  container := if r.isRoot then top else top ++ "_" ++ r.container

theorem under_mk (top id container : String) (m : Metadata) : under top ⟨id, m, container⟩ =
    ⟨top ++ "_" ++ id, m, if container.isEmpty then top else top ++ "_" ++ container⟩ := rfl

def below (above records : List Record) : List Record :=
  match above.getLast? with
  | none => records
  | some last => records.map (under last.id)

section

variable {xs ys zs : List Step}

theorem pathId_eq_empty_iff : pathId .heuristic zs = "" ↔ zs = [] := by
  constructor
  · intro h
    by_contra hne
    exact (isIdentifier_pathId hne).ne_empty h
  · rintro rfl
    rfl

theorem ofStep_append (hxs : xs ≠ []) (zs : List Step) (s : Step) :
    ofStep .heuristic (pathId .heuristic (xs ++ zs)) s =
      (ofStep .heuristic (pathId .heuristic zs) s).under (pathId .heuristic xs) := by
  have hid : identifier .heuristic (pathId .heuristic (xs ++ zs)) s =
      pathId .heuristic xs ++ "_" ++ identifier .heuristic (pathId .heuristic zs) s := by
    rw [identifier_pathId, identifier_pathId, List.append_assoc, pathId_append hxs (by simp)]
  have hcontainer : pathId .heuristic (xs ++ zs) =
      if (pathId .heuristic zs).isEmpty then pathId .heuristic xs
      else pathId .heuristic xs ++ "_" ++ pathId .heuristic zs := by
    simp only [String.isEmpty_iff, pathId_eq_empty_iff]
    split
    · next hzs => rw [hzs, List.append_nil]
    · next hzs => exact pathId_append hxs hzs
  rw [ofStep, ofStep, under_mk, hid, ← hcontainer]

theorem chain_under (hxs : xs ≠ []) (ys : List Step) :
    chain .heuristic (pathId .heuristic xs) ys =
      (ofSteps .heuristic ys).map (under (pathId .heuristic xs)) := by
  -- place by place: both chains come from the identifiers of the same beginnings of the path
  refine List.ext_getElem? fun i => ?_
  have hstep : under (pathId .heuristic xs) ∘ ofStep .heuristic (pathId .heuristic (ys.take i)) =
      ofStep .heuristic (pathId .heuristic (xs ++ ys.take i)) :=
    funext fun s => (ofStep_append hxs _ s).symm
  rw [List.getElem?_map, ofSteps_eq_chain, chain_getElem?, chain_getElem?, List.nil_append,
    Option.map_map, hstep]

theorem getLast_id (hxs : xs ≠ []) :
    ∃ last, (ofSteps .heuristic xs).getLast? = some last ∧ last.id = pathId .heuristic xs := by
  have hpos : 0 < xs.length := List.length_pos_of_ne_nil hxs
  have hlen := length_ofSteps .heuristic xs
  have hlast := List.getElem?_eq_getElem (l := ofSteps .heuristic xs) (i := xs.length - 1) (by omega)
  refine ⟨_, by rw [List.getLast?_eq_getElem?, hlen, hlast], ?_⟩
  rw [(ofSteps_getElem? hlast).2.1, Nat.sub_add_cancel hpos, List.take_length]

theorem ofSteps_append (xs ys : List Step) : ofSteps .heuristic (xs ++ ys) =
    ofSteps .heuristic xs ++ below (ofSteps .heuristic xs) (ofSteps .heuristic ys) := by
  rw [ofSteps_eq_chain, chain_append, ← ofSteps_eq_chain, List.nil_append]
  by_cases hxs : xs = []
  · subst hxs
    rfl
  · obtain ⟨last, hlast, hid⟩ := getLast_id hxs
    simp only [chain_under hxs, below, hlast, hid]

end

end Record

section

variable {x w y : String}

/-- The parser stands between two steps where the first source ends. -/
theorem parseExpression_append {ss us : List Step} (hx : parseExpression x = .ok ss)
    (hy : parseExpression y = .ok us) (hne : w ≠ "") (hw : ∀ c ∈ w.toList, isBlank c) :
    parseExpression (x ++ w ++ y) = .ok (ss ++ us) := by
  obtain ⟨ts, hts, hparse⟩ := parseExpression_eq_ok_iff.1 hx
  obtain ⟨vs, hvs, hparse'⟩ := parseExpression_eq_ok_iff.1 hy
  obtain ⟨ts', hts', hscan⟩ := tokenize_append hts hvs hne hw
  generalize x.utf8ByteSize + w.utf8ByteSize = n at hscan
  obtain rfl : body ts = ts' := List.append_inj_left' ((body_of_tokenize hts).1.symm.trans hts') rfl
  rw [parse_eq] at hparse hparse'
  obtain ⟨d, hd, rfl⟩ := readSteps_sound hparse
  -- the tokens of the second source, where they stand now
  have hmoved := readSteps_move (n + ·) (stopOffset vs) (body vs)
  rw [hparse'] at hmoved
  obtain ⟨d', hd', rfl⟩ := readSteps_sound hmoved
  have hbody : body (body ts ++ vs.map (Token.move (n + ·))) = tokens d ++ tokens d' := by
    have hall := (body_of_tokenize hscan).1
    nth_rewrite 1 [(body_of_tokenize hvs).1] at hall
    rw [List.map_append, ← List.append_assoc] at hall
    rw [hd, hd']
    exact (List.append_inj_left' hall rfl).symm
  refine parseExpression_eq_ok_iff.2 ⟨_, hscan, ?_⟩
  rw [parse_eq, hbody, readSteps_append (endsStep_tokens d'), readSteps_complete]
  rfl

/-- Two paths with blanks between them are one path: its steps are those of both, and its locators
are those of the first and, nested in the last of these, those of the second. -/
theorem locate_append {rx ry : List Record} (hx : locate x = .ok rx) (hy : locate y = .ok ry)
    (hne : w ≠ "") (hw : ∀ c ∈ w.toList, isBlank c) :
    ∃ ss us, parseExpression x = .ok ss ∧ parseExpression y = .ok us ∧
      parseExpression (x ++ w ++ y) = .ok (ss ++ us) ∧
      locate (x ++ w ++ y) = .ok (rx ++ Record.below rx ry) := by
  obtain ⟨ss, hss, rfl⟩ := locate_eq_ok_iff.1 hx
  obtain ⟨us, hus, rfl⟩ := locate_eq_ok_iff.1 hy
  have happend := parseExpression_append hss hus hne hw
  exact ⟨ss, us, hss, hus, happend,
    locate_eq_ok_iff.2 ⟨_, happend, Record.ofSteps_append ss us⟩⟩

/-- Without the blanks the two names are one. -/
theorem locate_append_names : ∃ rx ry,
    locate "//a" = .ok rx ∧ locate "b[2]/c" = .ok ry ∧ " \t" ≠ "" ∧
      (∀ c ∈ " \t".toList, isBlank c) ∧
      locate ("//a" ++ " \t" ++ "b[2]/c") = .ok (rx ++ Record.below rx ry) ∧
      (rx ++ Record.below rx ry).map (fun r => (r.id, r.container)) =
        [("any_QWidget", ""), ("any_QWidget_a_QWidget", "any_QWidget"),
          ("any_QWidget_a_QWidget_b_QWidget", "any_QWidget_a_QWidget"),
          ("any_QWidget_a_QWidget_b_QWidget_c_QWidget", "any_QWidget_a_QWidget_b_QWidget")] := by
  have hx : parseExpression "//a" = .ok
      [⟨"descendant-or-self", "*", none, true⟩, ⟨"child", "a", none, false⟩] := by decide +kernel
  have hy : parseExpression "b[2]/c" = .ok
      [⟨"child", "b", some [.position 2], false⟩, ⟨"child", "c", none, true⟩] := by decide +kernel
  have hlx := locate_eq_ok_iff.2 ⟨_, hx, rfl⟩
  have hly := locate_eq_ok_iff.2 ⟨_, hy, rfl⟩
  have hblank : ∀ c ∈ " \t".toList, isBlank c := List.all_eq_true.1 (by decide)
  obtain ⟨-, -, -, -, -, happend⟩ := locate_append hlx hly (w := " \t") (by decide) hblank
  exact ⟨_, _, hlx, hly, by decide, hblank, happend, by decide +kernel⟩

end

end WidgetLocator
