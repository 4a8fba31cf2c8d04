import ExprCompiler.Proofs.Expr.RoundTrip

/-!
# Expressions with the same artifact

The artifact of a readable expression says all about it but whether its literals have points. The
scanner cuts it into one list of tokens, and the grammar, which knows no limits, gives these one tree;
so this holds of artifacts that are nested too deep to be read back too (`artifact_eq_iff_pointed_eq`).
-/

namespace ExprCompiler.Expr

/-- What is spelled alike is alike, up to the points of literals. -/
theorem IsReadable.pointed_eq_of_spelled_eq {a b : Expr} (ha : a.IsReadable) (hb : b.IsReadable)
    (h : a.spelled = b.spelled) : a.pointed = b.pointed := by
  obtain ⟨tokens, ending, hbracketed, hending, htokens⟩ := ha.exists_tokensOf
  obtain ⟨tokens', ending', hbracketed', hending', htokens'⟩ := hb.exists_tokensOf
  -- The text is cut into one list of tokens, which has one tree, within the limits or not.
  rw [h, htokens', Except.ok.injEq] at htokens
  obtain ⟨rfl, -⟩ := List.append_inj' htokens rfl
  exact hbracketed.derives.unique hbracketed'.derives

theorem spelled_eq_iff {a b : Expr} (ha : a.IsReadable) (hb : b.IsReadable) :
    a.spelled = b.spelled ↔ a.pointed = b.pointed := by
  constructor
  · exact ha.pointed_eq_of_spelled_eq hb
  · intro h
    rw [← spelled_pointed a, h, spelled_pointed]

/-- Expressions that are readable, however deep they are, have artifacts, and two of them have the same
artifact exactly if they are the same once every literal has a point. So this holds of what any two
texts describe. -/
theorem artifact_eq_iff_pointed_eq :
    (∀ a b : Expr, a.IsReadable → b.IsReadable →
      (∃ text, a.artifact = .ok text) ∧ (a.artifact = b.artifact ↔ a.pointed = b.pointed)) ∧
    ∀ (code code' : String) (a b : Expr), ofText code = .ok a → ofText code' = .ok b →
      (∃ text, a.artifact = .ok text) ∧ (a.artifact = b.artifact ↔ a.pointed = b.pointed) := by
  have hreadable : ∀ a b : Expr, a.IsReadable → b.IsReadable →
      (∃ text, a.artifact = .ok text) ∧ (a.artifact = b.artifact ↔ a.pointed = b.pointed) := by
    intro a b ha hb
    refine ⟨⟨_, ha.artifact_eq⟩, ?_⟩
    rw [ha.artifact_eq, hb.artifact_eq, Except.ok.injEq, String.ofList_inj, spelled_eq_iff ha hb]
  refine ⟨hreadable, ?_⟩
  intro code code' a b hcode hcode'
  exact hreadable a b (isReadable_of_ofText hcode).1 (isReadable_of_ofText hcode').1

/-- Points make no difference to an artifact, and brackets do. -/
theorem artifact_eq_iff_pointed_eq_difference :
    let plain := binary .sub (number "1") (binary .add (number "20") (number "3."))
    let pointed := binary .sub (number "1.0") (binary .add (number "20.0") (number "3."))
    let regrouped := binary .add (binary .sub (number "1.0") (number "20.0")) (number "3.")
    plain.IsReadable ∧ pointed.IsReadable ∧ plain.artifact = pointed.artifact ∧
      ofText "(1.0-(20.0+3.))" = .ok pointed ∧ ofText "((1.0-20.0)+3.)" = .ok regrouped ∧
      pointed.artifact ≠ regrouped.artifact := by
  intro plain pointed regrouped
  have hone : IsNumberText "1" := ⟨⟨'1', rfl, rfl⟩, by simp, by decide⟩
  have htwenty : IsNumberText "20" := ⟨⟨'2', rfl, rfl⟩, by simp, by decide⟩
  have hthree : IsNumberText "3." := ⟨⟨'3', rfl, rfl⟩, by simp, by decide⟩
  have hplain : plain.IsReadable := ⟨hone, htwenty, hthree⟩
  have hpointed : pointed.IsReadable := ⟨hone.pointed, htwenty.pointed, hthree⟩
  have hregrouped : regrouped.IsReadable := ⟨⟨hone.pointed, htwenty.pointed⟩, hthree⟩
  have hcode : ofText "(1.0-(20.0+3.))" = .ok pointed := hpointed.ofText_of_le (by decide)
  have hcode' : ofText "((1.0-20.0)+3.)" = .ok regrouped := hregrouped.ofText_of_le (by decide)
  obtain ⟨hreadable, htexts⟩ := artifact_eq_iff_pointed_eq
  refine ⟨hplain, hpointed, ?_, hcode, hcode', ?_⟩
  · exact (hreadable plain pointed hplain hpointed).2.2 (by decide)
  · exact fun h => absurd ((htexts _ _ pointed regrouped hcode hcode').2.1 h) (by decide)

end ExprCompiler.Expr
