import MetricGateway.Proofs.Json.Token
import MetricGateway.Proofs.PromQL.Confinement

/-!
# Reading a template back

The text of an applied method tells the method, the expression and, where the text holds it, the
window, whatever the expression is (`wrapped_eq_iff`). The method is read from the front: no
template opens like another one (`PrefixFree`). The window is read from the end, where its digits
stand behind the last opening bracket, since an expression may hold brackets and windows of its own
(`window_injective`). What is left is the expression.
-/

namespace MetricGateway.Method

/-! ## Openings -/

/-- What stands before the expression when a method is applied to a gauge. -/
def gaugeOpening : Method → String
  | mean => "avg("
  | percentile p => "quantile(" ++ p.share ++ ","
  | max => "max("
  | min => "min("
  | sum => "sum("
  | eventCount => "count_over_time("

/-- What stands before the samples when a method is applied to a counter. -/
def counterOpening : Method → String
  | mean => "avg_over_time("
  | percentile p => "quantile_over_time(" ++ p.share ++ ","
  | max => "max_over_time("
  | min => "min_over_time("
  | sum => "sum_over_time("
  | eventCount => "count_over_time("

/-- No method has an opening that the opening of another method begins with. -/
def PrefixFree (opening : Method → String) : Prop :=
  ∀ m m', (opening m).toList <+: (opening m').toList → m = m'

/-- Openings of which none begins with another are told apart whatever follows them. -/
theorem PrefixFree.eq_of_append {opening : Method → String} (h : PrefixFree opening)
    {m m' : Method} {text text' : String} (heq : opening m ++ text = opening m' ++ text') :
    m = m' ∧ text = text' := by
  have hlists : (opening m).toList ++ text.toList = (opening m').toList ++ text'.toList := by
    rw [← String.toList_append, heq, String.toList_append]
  have hmethod : m = m' := by
    rcases List.append_eq_append_iff.1 hlists with ⟨more, hlonger, -⟩ | ⟨more, hlonger, -⟩
    · exact h m m' ⟨more, hlonger.symm⟩
    · exact (h m' m ⟨more, hlonger.symm⟩).symm
  subst hmethod
  exact ⟨rfl, (String.append_right_inj _).1 heq⟩

/-- Every method is listed. -/
theorem mem_all (m : Method) : m ∈ all := by
  cases m with
  | percentile p => cases p <;> decide
  | mean | max | min | sum | eventCount => decide

/-- No opening of a gauge begins with another one. -/
theorem prefixFree_gaugeOpening : PrefixFree gaugeOpening := by
  have hall : ∀ m ∈ all, ∀ m' ∈ all,
      (gaugeOpening m).toList <+: (gaugeOpening m').toList → m = m' := by
    decide +kernel
  exact fun m m' => hall m (mem_all m) m' (mem_all m')

/-- No opening of a counter begins with another one. -/
theorem prefixFree_counterOpening : PrefixFree counterOpening := by
  have hall : ∀ m ∈ all, ∀ m' ∈ all,
      (counterOpening m).toList <+: (counterOpening m').toList → m = m' := by
    decide +kernel
  exact fun m m' => hall m (mem_all m) m' (mem_all m')

/-! ## Windows -/

section Window

variable {front front' : String} {w w' : Nat}

/-- Seconds are written as digits and a letter. -/
theorem toList_seconds (n : Nat) : (seconds n).toList = Text.digitsOf n ++ ['s'] := by
  unfold seconds
  rw [String.toList_append, Nat.toList_repr]
  rfl

/-- There is no bracket among digits. -/
theorem bracket_notMem_digitsOf (n : Nat) : '[' ∉ Text.digitsOf n :=
  fun hmem => absurd (Json.isDigit_of_mem_digitsOf hmem) (by decide)

/-- A window behind its bracket is told by the text that ends with it, and so is what stands before
it, even if that holds brackets too: none stands behind the one of the window. -/
theorem window_injective (back : String)
    (h : front ++ "[" ++ seconds w ++ back = front' ++ "[" ++ seconds w' ++ back) :
    front = front' ∧ w = w' := by
  rw [String.append_left_inj, ← String.toList_inj] at h
  simp only [String.toList_append, toList_seconds, ← List.append_assoc, List.append_cancel_right_eq]
    at h
  -- Read from the end, the first bracket is the one before the digits.
  have hreversed := congrArg List.reverse h
  have hopen : "[".toList = ['['] := rfl
  simp only [hopen, List.reverse_append, List.reverse_singleton, List.singleton_append] at hreversed
  have hdigits (n : Nat) : '[' ∉ (Text.digitsOf n).reverse :=
    fun hmem => bracket_notMem_digitsOf n (List.mem_reverse.1 hmem)
  obtain ⟨hwindow, hfront⟩ := PromQL.cut_injective (hdigits w) (hdigits w') hreversed
  have hvalue := congrArg Text.valueOf (List.reverse_injective hwindow)
  rw [Json.valueOf_digitsOf, Json.valueOf_digitsOf] at hvalue
  exact ⟨String.toList_injective (List.reverse_injective hfront), hvalue⟩

end Window

/-! ## What follows an opening -/

/-- The rest of the text when a method is applied to a gauge: only the count of events has a
window. -/
def gaugeRest (method : Method) (expression : String) (window : Nat) : String :=
  if method = eventCount then expression ++ "[" ++ seconds window ++ "])" else expression ++ ")"

/-- The samples of a counter, to which a method is applied. -/
def counterSamples (expression : String) (window : Nat) : String :=
  increase expression window ++ "[" ++ seconds window ++ (":" ++ seconds discretionSeconds ++ "]")

/-- A wrapped gauge is its opening and the rest. -/
theorem wrapGauge_eq (method : Method) (expression : String) (window : Nat) :
    method.wrapGauge expression window =
      method.gaugeOpening ++ method.gaugeRest expression window := by
  unfold wrapGauge gaugeOpening gaugeRest
  cases method with
  | eventCount =>
    rw [if_pos rfl]
    simp only [String.append_assoc]
  | mean | percentile p | max | min | sum =>
    rw [if_neg nofun]
    simp only [String.append_assoc]

/-- A wrapped counter is its opening, the samples and a parenthesis. -/
theorem wrapCounter_eq (method : Method) (expression : String) (window : Nat) :
    method.wrapCounter expression window =
      method.counterOpening ++ (counterSamples expression window ++ ")") := by
  unfold wrapCounter counterOpening counterSamples
  cases method <;> simp only [String.append_assoc]

variable {e e' : String} {w w' : Nat}

/-- The rest of a gauge tells its expression, and its window where there is one. -/
theorem gaugeRest_eq_iff (method : Method) :
    method.gaugeRest e w = method.gaugeRest e' w' ↔
      e = e' ∧ (method = eventCount → w = w') := by
  unfold gaugeRest
  by_cases hcount : method = eventCount
  · rw [if_pos hcount, if_pos hcount]
    constructor
    · intro h
      obtain ⟨he, hw⟩ := window_injective "])" h
      exact ⟨he, fun _ => hw⟩
    · rintro ⟨rfl, hw⟩
      rw [hw hcount]
  · rw [if_neg hcount, if_neg hcount, String.append_left_inj]
    exact ⟨fun he => ⟨he, fun h => absurd h hcount⟩, And.left⟩

/-- The samples of a counter tell its expression and its window. -/
theorem counterSamples_eq_iff : counterSamples e w = counterSamples e' w' ↔ e = e' ∧ w = w' := by
  constructor
  · intro h
    -- The last window is that of the samples, and the one before it that of the increase.
    obtain ⟨hincrease, rfl⟩ := window_injective _ h
    unfold increase at hincrease
    rw [String.append_left_inj, String.append_left_inj, String.append_left_inj,
      String.append_right_inj] at hincrease
    exact ⟨hincrease, rfl⟩
  · rintro ⟨rfl, rfl⟩
    rfl

/-! ## Applied methods -/

/-- Methods that are applied to counters give the same text if and only if method, expression and
window are the same, and methods that are applied to gauges if and only if method and expression
are, and the window for the one method that has it in its text. -/
theorem wrapped_eq_iff (m m' : Method) (e e' : String) (w w' : Nat) :
    (m.wrapCounter e w = m'.wrapCounter e' w' ↔ m = m' ∧ e = e' ∧ w = w') ∧
      (m.wrapGauge e w = m'.wrapGauge e' w' ↔
        m = m' ∧ e = e' ∧ (m = eventCount → w = w')) := by
  constructor
  · rw [wrapCounter_eq, wrapCounter_eq]
    constructor
    · intro h
      obtain ⟨hmethod, hsamples⟩ := prefixFree_counterOpening.eq_of_append h
      exact ⟨hmethod, counterSamples_eq_iff.1 ((String.append_left_inj _).1 hsamples)⟩
    · rintro ⟨rfl, rfl, rfl⟩
      rfl
  · rw [wrapGauge_eq, wrapGauge_eq]
    constructor
    · intro h
      obtain ⟨rfl, hrest⟩ := prefixFree_gaugeOpening.eq_of_append h
      exact ⟨rfl, (gaugeRest_eq_iff m).1 hrest⟩
    · rintro ⟨rfl, he⟩
      rw [(gaugeRest_eq_iff m).2 he]

end MetricGateway.Method
