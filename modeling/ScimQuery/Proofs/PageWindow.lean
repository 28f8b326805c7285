import Mathlib.Algebra.Group.Int.Defs
import Mathlib.Algebra.Group.Nat.Defs
import ScimQuery.Proofs.Stages
import ScimQuery.Proofs.Parameters
import ScimQuery.Catalog.Builtin

/-! # Page windows

A request's window, read as integers: it starts at the requested start raised to 1, skips
one row fewer, and takes the requested size, or the default size, raised to 0 and cut to the
largest page. The default size is an unsigned word read as a signed one, so a default of
`2^63` or more counts as negative and gives an empty page, even under settings that pass
validation. For starts and sizes that fit signed 64-bit words, the row statement writes the
rows skipped and taken as they are, in the page clause of each dialect.
-/

namespace ScimQuery

section SignedWord

theorem pow_two_64 : Nat.pow 2 64 = 18446744073709551616 := by decide

theorem natCast_emod_word {n : Nat} (h : n < 2 ^ 64) :
    (n : Int) % ((18446744073709551616 : Nat) : Int) = n :=
  Int.emod_eq_of_lt (by omega) (by omega)

theorem signedWord_of_lt {n : Nat} (h : n < 2 ^ 63) : signedWord n = n := by
  unfold signedWord
  rw [pow_two_64, Int.bmod_def, natCast_emod_word (by omega), if_pos (by omega)]

/-- A word from `2^63` on reads as itself less `2^64`, a negative number. -/
theorem signedWord_of_ge {n : Nat} (h : 2 ^ 63 ≤ n) (h' : n < 2 ^ 64) :
    signedWord n = n - 2 ^ 64 := by
  unfold signedWord
  rw [pow_two_64, Int.bmod_def, natCast_emod_word h', if_neg (by omega)]
  rfl

theorem signedWord_le (n : Nat) : signedWord n ≤ Json.i64Max := by
  have := @Int.bmod_lt n (Nat.pow 2 64) (by decide)
  unfold signedWord Json.i64Max
  rw [pow_two_64] at this ⊢
  omega

end SignedWord

section Resolve

variable (p : PageRequest) (s : QuerySettings)

/-- The window of a request, read as integers: the start raised to 1, one row fewer skipped,
and the size asked for, or the default size read as a signed word, raised to 0 and cut to the
largest page. -/
theorem resolve_eq :
    ((p.resolve s).startIndex : Int) = max p.startIndex 1 ∧
      ((p.resolve s).offset : Int) = max p.startIndex 1 - 1 ∧
      ((p.resolve s).limit : Int) =
        min (max (p.count.getD (signedWord s.defaultCount)) 0) s.maxResults := by
  simp only [PageRequest.resolve]
  omega

/-- Raising a size to 0 and cutting it to the largest page gives the same as for the default
size itself exactly when a size is asked for, the default size reads as itself, or the largest
page is empty. -/
theorem clamp_getD_iff (count : Option Int) (d m : Nat) {w : Int}
    (hw : d < 2 ^ 63 ∧ w = d ∨ 2 ^ 63 ≤ d ∧ d < 2 ^ 64 ∧ w = d - 2 ^ 64) :
    min (max (count.getD w) 0) m = min (max (count.getD d) 0) m ↔
      count.isSome ∨ d < 2 ^ 63 ∨ m = 0 := by
  cases count with
  | some c => simp
  | none =>
    simp only [Option.getD_none, Option.isSome_none, Bool.false_eq_true, false_or]
    omega

/-- The size is the one asked for, or the default size, raised to 0 and cut to the largest
page, exactly when a size is asked for, the default size is below `2^63`, or the largest page
is empty. -/
theorem resolve_limit_eq_iff (hd : s.defaultCount < 2 ^ 64) :
    ((p.resolve s).limit : Int) = min (max (p.count.getD s.defaultCount) 0) s.maxResults ↔
      p.count.isSome ∨ s.defaultCount < 2 ^ 63 ∨ s.maxResults = 0 := by
  rw [(resolve_eq p s).2.2]
  refine clamp_getD_iff _ _ _ ?_
  by_cases hlt : s.defaultCount < 2 ^ 63
  · exact .inl ⟨hlt, signedWord_of_lt hlt⟩
  · exact .inr ⟨by omega, hd, signedWord_of_ge (by omega) hd⟩

theorem getD_le_i64Max {count : Option Int} (hcount : ∀ c, count = some c → c ≤ Json.i64Max)
    {w : Int} (hw : w ≤ Json.i64Max) : count.getD w ≤ Json.i64Max := by
  cases h : count with
  | some c => exact hcount c h
  | none => exact hw

theorem resolve_lt (hstart : p.startIndex ≤ Json.i64Max)
    (hcount : ∀ c, p.count = some c → c ≤ Json.i64Max) :
    (p.resolve s).offset < 2 ^ 63 ∧ (p.resolve s).limit < 2 ^ 63 := by
  obtain ⟨-, hoff, hlim⟩ := resolve_eq p s
  have hw := signedWord_le s.defaultCount
  -- the window and the default size as opaque values, so that only the equations speak of them
  generalize p.resolve s = page at hoff hlim ⊢
  generalize signedWord s.defaultCount = w at hw hlim
  have hc := getD_le_i64Max hcount hw
  rw [Json.i64Max] at hstart hc
  omega

end Resolve

namespace Sql

theorem bindFrom_append (d : Dialect) (ts us : List Token) (seen : Nat) :
    bindFrom d seen (ts ++ us) = bindFrom d seen ts ++ bindFrom d (seen + (paramsOf ts).length) us := by
  induction ts generalizing seen with
  | nil => rfl
  | cons t ts ih =>
    by_cases ht : ∃ v, t = .param v
    · obtain ⟨v, rfl⟩ := ht
      rw [List.cons_append, bindFrom_param_cons, bindFrom_param_cons, ih, paramsOf_param_cons,
        List.length_cons, Nat.add_assoc, Nat.add_comm 1]
      rfl
    · have ht' : ∀ v, t ≠ .param v := fun v h => ht ⟨v, h⟩
      rw [List.cons_append, bindFrom_cons_of_ne d seen ht', bindFrom_cons_of_ne d seen ht', ih,
        paramsOf_cons_of_ne ht']
      rfl

theorem tokens_of_paging (d : Dialect) {q : Query} {pg : Paging} (h : q.paging = some pg) :
    ∃ pre, q.tokens d = pre ++ w .newline :: pg.tokens d := by
  obtain ⟨select, source, joins, filter, groupBy, orderBy, paging⟩ := q
  cases h
  exact ⟨_, rfl⟩

theorem text_paging (d : Dialect) (seen limit offset : Nat) (hl : limit < 2 ^ 63)
    (ho : offset < 2 ^ 63) :
    String.join (bindFrom d seen (w .newline :: Paging.tokens d ⟨some limit, some offset⟩)) =
      if d = .tsql then
        "\nOFFSET " ++ toString offset ++ " ROWS FETCH NEXT " ++ toString limit ++ " ROWS ONLY"
      else "\nLIMIT " ++ toString limit ++ " OFFSET " ++ toString offset := by
  have hwl : wrapSigned limit = limit := by
    unfold wrapSigned
    exact if_pos hl
  have hwo : wrapSigned offset = offset := by
    unfold wrapSigned
    exact if_pos ho
  cases d <;> simp [Paging.tokens, bindFrom, Token.text, Word.text, hwl, hwo, ← String.append_assoc] <;>
    rfl

/-- The text of a query with a page whose numbers fit signed 64-bit words ends with the page
clause of its dialect, which writes those numbers. -/
theorem bind_sql_of_paging (d : Dialect) {q : Query} {limit offset : Nat}
    (h : q.paging = some ⟨some limit, some offset⟩) (hl : limit < 2 ^ 63) (ho : offset < 2 ^ 63) :
    ∃ pre, (q.bind d).sql = pre ++
      if d = .tsql then
        "\nOFFSET " ++ toString offset ++ " ROWS FETCH NEXT " ++ toString limit ++ " ROWS ONLY"
      else "\nLIMIT " ++ toString limit ++ " OFFSET " ++ toString offset := by
  obtain ⟨pre, hpre⟩ := tokens_of_paging d h
  refine ⟨String.join (bindFrom d 0 pre), ?_⟩
  rw [Query.bind, bind, hpre, bindFrom_append, String.join_append, text_paging d _ _ _ hl ho]

end Sql

/-- Page arithmetic of a plan. The window starts at the requested start raised to 1 and skips
one row fewer; it holds the requested size, or the default size read as a signed 64-bit word,
raised to 0 and cut to the largest page. That is the requested or default size itself, raised
to 0 and cut, exactly when a size is requested, the default size is below `2^63` or the largest
page is empty. In every dialect the row statement ends with its page clause, which writes the
number of rows skipped and taken as they are. -/
theorem plan_page_window {m : ResourceMapping} {settings : QuerySettings} {tenant : String}
    {filter : Option FilterNode} {sortBy : Option String} {sortOrder : Option SortOrder}
    {p : PageRequest} {pq : PlannedQuery} (hstart : p.startIndex ≤ Json.i64Max)
    (hcount : ∀ c, p.count = some c → c ≤ Json.i64Max) (hdefault : settings.defaultCount < 2 ^ 64)
    (h : m.plan settings tenant filter sortBy sortOrder p = .ok pq) :
    (pq.page.startIndex : Int) = max p.startIndex 1 ∧
      (pq.page.offset : Int) = max p.startIndex 1 - 1 ∧
      (pq.page.limit : Int) =
        min (max (p.count.getD (signedWord settings.defaultCount)) 0) settings.maxResults ∧
      ((pq.page.limit : Int) = min (max (p.count.getD settings.defaultCount) 0) settings.maxResults ↔
        p.count.isSome ∨ settings.defaultCount < 2 ^ 63 ∨ settings.maxResults = 0) ∧
      ∀ d, ∃ pre, (pq.rows.query.bind d).sql = pre ++
        if d = .tsql then
          "\nOFFSET " ++ toString pq.page.offset ++ " ROWS FETCH NEXT " ++ toString pq.page.limit ++
            " ROWS ONLY"
        else "\nLIMIT " ++ toString pq.page.limit ++ " OFFSET " ++ toString pq.page.offset := by
  obtain ⟨compiled, sort, ordered, assocs, -, -, -, -, rfl⟩ := ResourceMapping.plan_eq_ok.1 h
  obtain ⟨hoff, hlim⟩ := resolve_lt p settings hstart hcount
  exact ⟨(resolve_eq p settings).1, (resolve_eq p settings).2.1, (resolve_eq p settings).2.2,
    resolve_limit_eq_iff p settings hdefault, fun d => Sql.bind_sql_of_paging d rfl hlim hoff⟩

/-- The first default page of roles. -/
theorem roles_plan_page_window :
    ∃ m pq, ResourceMapping.ofDecl Catalog.roleDecl = .ok m ∧
      m.plan {} "acme" none none none {} = .ok pq ∧
      ({} : PageRequest).startIndex ≤ Json.i64Max ∧
      (∀ c, ({} : PageRequest).count = some c → c ≤ Json.i64Max) ∧
      ({} : QuerySettings).defaultCount < 2 ^ 64 ∧
      (pq.page.startIndex : Int) = max ({} : PageRequest).startIndex 1 ∧
      (pq.page.offset : Int) = max ({} : PageRequest).startIndex 1 - 1 ∧
      (pq.page.limit : Int) = min (max (({} : PageRequest).count.getD
        (signedWord ({} : QuerySettings).defaultCount)) 0) ({} : QuerySettings).maxResults ∧
      ((pq.page.limit : Int) = min (max (({} : PageRequest).count.getD
          ({} : QuerySettings).defaultCount) 0) ({} : QuerySettings).maxResults ↔
        ({} : PageRequest).count.isSome ∨ ({} : QuerySettings).defaultCount < 2 ^ 63 ∨
          ({} : QuerySettings).maxResults = 0) ∧
      ∀ d, ∃ pre, (pq.rows.query.bind d).sql = pre ++
        if d = .tsql then
          "\nOFFSET " ++ toString pq.page.offset ++ " ROWS FETCH NEXT " ++ toString pq.page.limit ++
            " ROWS ONLY"
        else "\nLIMIT " ++ toString pq.page.limit ++ " OFFSET " ++ toString pq.page.offset := by
  obtain ⟨m, pq, hm, h⟩ : ∃ m pq, ResourceMapping.ofDecl Catalog.roleDecl = .ok m ∧
      m.plan {} "acme" none none none {} = .ok pq := ⟨_, _, rfl, rfl⟩
  have hstart : ({} : PageRequest).startIndex ≤ Json.i64Max := by decide
  have hcount : ∀ c, ({} : PageRequest).count = some c → c ≤ Json.i64Max := by simp
  have hdefault : ({} : QuerySettings).defaultCount < 2 ^ 64 := by decide
  exact ⟨m, pq, hm, h, hstart, hcount, hdefault, plan_page_window hstart hcount hdefault h⟩

/-- Settings that pass validation with a default page of `2^63` rows give a request without a
size an empty page, not `2^63` rows: the default size is read as a negative signed word. -/
theorem resolve_default_two_pow_63 :
    ({ defaultCount := 2 ^ 63, maxResults := 2 ^ 63 } : QuerySettings).validate = .ok () ∧
      (({} : PageRequest).resolve { defaultCount := 2 ^ 63, maxResults := 2 ^ 63 }).limit = 0 :=
  ⟨rfl, rfl⟩

end ScimQuery
