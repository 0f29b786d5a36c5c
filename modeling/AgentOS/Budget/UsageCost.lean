import AgentOS.Budget.LedgerRules
import AgentOS.Library.Sums

/-! What the tokens and the time that a run used cost at the rates of its model. -/
namespace AgentOS.Budget
open Library

structure UsageQuantity where
  inputTokens : Number
  outputTokens : Number
  cacheReadInputTokens : Option Number := none
  cacheCreation5mInputTokens : Option Number := none
  cacheCreation1hInputTokens : Option Number := none
  runtimeMs : Number

structure ModelRates where
  inputMicrodollarsPerMillionTokens : Number
  outputMicrodollarsPerMillionTokens : Number
  cacheReadInputMicrodollarsPerMillionTokens : Option Number := none
  cacheCreation5mInputMicrodollarsPerMillionTokens : Option Number := none
  cacheCreation1hInputMicrodollarsPerMillionTokens : Option Number := none
  runtimeMicrodollarsPerMinute : Number

/-- A division of `bigint`s, which drops the fraction. -/
def divideUp (numerator denominator : Int) : Int :=
  if numerator = 0 then 0 else (numerator + denominator - 1).tdiv denominator

def derivedRate (value : Number) (numerator denominator : Int) : Except String Int :=
  requireNonNegativeInteger value "input rate" >>= fun rate => toMicrodollars (divideUp (rate * numerator) denominator)

/-- A rate, or what it is derived to be from the input rate where it is absent. -/
def rateOr (rate : Option Number) (input : Number) (numerator denominator : Int) : Except String Number :=
  match rate with
  | some rate => .ok rate
  | none => derivedRate input numerator denominator >>= fun rate => .ok rate

/-- What one of the components of a usage costs: its count is checked before its rate is derived or checked. -/
def componentCost (count : Number) (countLabel : String) (rate : Except String Number) (rateLabel : String) (divisor : Int) :
    Except String Int :=
  requireNonNegativeInteger count countLabel >>= fun count =>
  rate >>= fun rate =>
  requireNonNegativeInteger rate rateLabel >>= fun rate =>
  .ok (divideUp (count * rate) divisor)

def calculateUsageCost (usage : UsageQuantity) (rates : ModelRates) : Except String Int :=
  let inputRate := rates.inputMicrodollarsPerMillionTokens
  componentCost usage.inputTokens "inputTokens" (.ok inputRate) "input rate" 1000000 >>= fun input =>
  componentCost usage.outputTokens "outputTokens" (.ok rates.outputMicrodollarsPerMillionTokens) "output rate" 1000000
    >>= fun output =>
  componentCost (usage.cacheReadInputTokens.getD 0) "cacheReadInputTokens"
    (rateOr rates.cacheReadInputMicrodollarsPerMillionTokens inputRate 1 10) "cache read input rate" 1000000
    >>= fun cacheRead =>
  componentCost (usage.cacheCreation5mInputTokens.getD 0) "cacheCreation5mInputTokens"
    (rateOr rates.cacheCreation5mInputMicrodollarsPerMillionTokens inputRate 5 4) "5m cache creation input rate" 1000000
    >>= fun cacheCreation5m =>
  componentCost (usage.cacheCreation1hInputTokens.getD 0) "cacheCreation1hInputTokens"
    (rateOr rates.cacheCreation1hInputMicrodollarsPerMillionTokens inputRate 2 1) "1h cache creation input rate" 1000000
    >>= fun cacheCreation1h =>
  componentCost usage.runtimeMs "runtimeMs" (.ok rates.runtimeMicrodollarsPerMinute) "runtime rate" 60000 >>= fun runtime =>
  toMicrodollars (input + output + cacheRead + cacheCreation5m + cacheCreation1h + runtime)

/-! ### Checked amounts -/

structure IsAmount (value : Number) : Prop where
  whole : value.den = 1
  positive : 0 ≤ value
  safe : value ≤ MAX_SAFE_INTEGER

theorem isAmount_int (amount : Int) : IsAmount (amount : Number) ↔ 0 ≤ amount ∧ amount ≤ MAX_SAFE_INTEGER := by
  constructor
  · intro checked
    have positive := checked.positive
    have safe := checked.safe
    constructor
    · exact_mod_cast positive
    · exact_mod_cast safe
  · intro ⟨positive,safe⟩
    refine ⟨Rat.den_intCast amount,?_,?_⟩
    · exact_mod_cast positive
    · exact_mod_cast safe

theorem require_iff {value : Number} {label : String} {amount : Int} :
    requireNonNegativeInteger value label = .ok amount ↔ IsAmount value ∧ value = amount := by
  constructor
  · intro ok
    obtain ⟨same,bounds⟩ := require_ok ok
    refine ⟨?_,same⟩
    rw [same,isAmount_int]
    exact bounds
  · intro ⟨checked,same⟩
    subst same
    obtain ⟨positive,safe⟩ := (isAmount_int amount).mp checked
    simp only [MAX_SAFE_INTEGER] at safe
    have inside : isSafeInteger amount = true := by
      simp only [isSafeInteger,Bool.and_eq_true,decide_eq_true_eq]
      omega
    simp [requireNonNegativeInteger,inside,positive]

theorem toMicrodollars_iff {value total : Int} : toMicrodollars value = .ok total ↔ value = total ∧ value ≤ MAX_SAFE_INTEGER := by
  unfold toMicrodollars
  split
  · simp
    omega
  · simp
    omega

/-! ### Rounding up -/

theorem divideUp_eq {numerator : Int} {denominator : Nat} (positive : 0 ≤ numerator) (divides : 0 < denominator) :
    divideUp numerator denominator = ⌈(numerator : Number) / denominator⌉ := by
  have divides' : (0 : Int) < denominator := by omega
  have bound : (0 : Number) < denominator := by exact_mod_cast divides
  symm
  rw [Int.ceil_eq_iff,lt_div_iff₀ bound,div_le_iff₀ bound]
  have products : ((divideUp numerator denominator - 1) * denominator < numerator) ∧
      numerator ≤ divideUp numerator denominator * denominator := by
    unfold divideUp
    split
    · omega
    · rw [Int.tdiv_eq_ediv_of_nonneg (by omega)]
      have lower := Int.ediv_mul_le (numerator + denominator - 1) (ne_of_gt divides')
      have upper := Int.lt_ediv_add_one_mul_self (numerator + denominator - 1) divides'
      rw [Int.add_mul,Int.one_mul] at upper
      rw [Int.sub_mul,Int.one_mul]
      omega
  exact_mod_cast products

/-! ### Components -/

structure Component where
  count : UsageQuantity → Number
  rate : ModelRates → Number
  divisor : Nat

/-- A rate that is given, or the part of the input rate it is derived to be, rounded up. -/
def rateGiven (given : ModelRates → Option Number) (part : Number) (rates : ModelRates) : Number :=
  (given rates).getD ⌈rates.inputMicrodollarsPerMillionTokens * part⌉

def components : List Component :=
  [⟨UsageQuantity.inputTokens,ModelRates.inputMicrodollarsPerMillionTokens,1000000⟩,
   ⟨UsageQuantity.outputTokens,ModelRates.outputMicrodollarsPerMillionTokens,1000000⟩,
   ⟨fun usage => usage.cacheReadInputTokens.getD 0,
    rateGiven ModelRates.cacheReadInputMicrodollarsPerMillionTokens (1 / 10),1000000⟩,
   ⟨fun usage => usage.cacheCreation5mInputTokens.getD 0,
    rateGiven ModelRates.cacheCreation5mInputMicrodollarsPerMillionTokens (5 / 4),1000000⟩,
   ⟨fun usage => usage.cacheCreation1hInputTokens.getD 0,
    rateGiven ModelRates.cacheCreation1hInputMicrodollarsPerMillionTokens 2,1000000⟩,
   ⟨UsageQuantity.runtimeMs,ModelRates.runtimeMicrodollarsPerMinute,60000⟩]

namespace Component

def product (component : Component) (usage : UsageQuantity) (rates : ModelRates) : Number :=
  component.count usage * component.rate rates

def exact (component : Component) (usage : UsageQuantity) (rates : ModelRates) : Number :=
  component.product usage rates / component.divisor

def Chargeable (component : Component) (usage : UsageQuantity) (rates : ModelRates) : Prop :=
  IsAmount (component.count usage) ∧ IsAmount (component.rate rates)

end Component

def exactCost (usage : UsageQuantity) (rates : ModelRates) : Number :=
  (components.map fun component => component.exact usage rates).sum

def roundedCost (usage : UsageQuantity) (rates : ModelRates) : Int :=
  Sums.sum components fun component => ⌈component.exact usage rates⌉

def charged (usage : UsageQuantity) (rates : ModelRates) : Nat :=
  components.countP fun component => component.product usage rates ≠ 0

variable {countLabel rateLabel : String} {cost : Int}

theorem componentCost_iff {count : Number} {divisor : Nat} {rated : Except String Number} (divides : 0 < divisor) :
    componentCost count countLabel rated rateLabel divisor = .ok cost ↔
      IsAmount count ∧ ∃ rate, rated = .ok rate ∧ IsAmount rate ∧ cost = ⌈count * rate / divisor⌉ := by
  have price (counted perUnit : Int) (countable : IsAmount counted) (rateable : IsAmount perUnit) :
      divideUp (counted * perUnit) divisor = ⌈(counted * perUnit : Number) / divisor⌉ := by
    have product := Int.mul_nonneg ((isAmount_int counted).mp countable).1 ((isAmount_int perUnit).mp rateable).1
    rw [divideUp_eq product divides]
    push_cast
    rfl
  constructor
  · intro ok
    obtain ⟨counted,first,ok⟩ := bind_ok.mp ok
    obtain ⟨rate,found,ok⟩ := bind_ok.mp ok
    obtain ⟨perUnit,second,ok⟩ := bind_ok.mp ok
    cases ok
    obtain ⟨countable,first⟩ := require_iff.mp first
    obtain ⟨rateable,second⟩ := require_iff.mp second
    subst first second
    exact ⟨countable,perUnit,found,rateable,price counted perUnit countable rateable⟩
  · intro ⟨countable,rate,found,rateable,total⟩
    have whole := (Rat.den_eq_one_iff count).mp countable.whole
    have wholeRate := (Rat.den_eq_one_iff rate).mp rateable.whole
    have first : requireNonNegativeInteger count countLabel = .ok count.num := require_iff.mpr ⟨countable,whole.symm⟩
    have second : requireNonNegativeInteger rate rateLabel = .ok rate.num := require_iff.mpr ⟨rateable,wholeRate.symm⟩
    rw [← whole] at countable
    rw [← wholeRate] at rateable
    have same := price count.num rate.num countable rateable
    rw [whole,wholeRate,← total] at same
    refine bind_ok.mpr ⟨count.num,first,bind_ok.mpr ⟨rate,found,bind_ok.mpr ⟨rate.num,second,?_⟩⟩⟩
    rw [same]

section
variable {given : ModelRates → Option Number} {rates : ModelRates} {numerator : Int} {denominator : Nat}

theorem derivedRate_iff {input : Number} {rate : Int} (positive : 0 ≤ numerator) (divides : 0 < denominator) :
    derivedRate input numerator denominator = .ok rate ↔
      IsAmount input ∧ rate = ⌈input * (numerator / denominator : Number)⌉ ∧ rate ≤ MAX_SAFE_INTEGER := by
  have part (input : Int) (checked : IsAmount input) :
      divideUp (input * numerator) denominator = ⌈(input : Number) * (numerator / denominator)⌉ := by
    rw [divideUp_eq (Int.mul_nonneg ((isAmount_int input).mp checked).1 positive) divides,← mul_div_assoc]
    push_cast
    rfl
  constructor
  · intro ok
    obtain ⟨amount,required,ok⟩ := bind_ok.mp ok
    obtain ⟨checked,same⟩ := require_iff.mp required
    obtain ⟨total,safe⟩ := toMicrodollars_iff.mp ok
    subst same
    rw [← part amount checked,← total]
    exact ⟨checked,rfl,total ▸ safe⟩
  · intro ⟨checked,total,safe⟩
    have whole := (Rat.den_eq_one_iff input).mp checked.whole
    rw [← whole] at checked
    have same := part input.num checked
    rw [whole] at same
    refine bind_ok.mpr ⟨input.num,require_iff.mpr ⟨whole ▸ checked,whole.symm⟩,toMicrodollars_iff.mpr ?_⟩
    rw [same,← total]
    exact ⟨rfl,safe⟩

theorem rateOr_ok {rate : Number} (positive : 0 ≤ numerator) (divides : 0 < denominator)
    (ok : rateOr (given rates) rates.inputMicrodollarsPerMillionTokens numerator denominator = .ok rate) :
    rate = rateGiven given (numerator / denominator) rates := by
  unfold rateOr at ok
  unfold rateGiven
  split at ok
  · rename_i present
    cases ok
    rw [present,Option.getD_some]
  · rename_i absent
    obtain ⟨derived,found,ok⟩ := bind_ok.mp ok
    cases ok
    rw [absent,Option.getD_none,((derivedRate_iff positive divides).mp found).2.1]

theorem rateOr_of_amount (positive : 0 ≤ numerator) (divides : 0 < denominator)
    (input : IsAmount rates.inputMicrodollarsPerMillionTokens) (checked : IsAmount (rateGiven given (numerator / denominator) rates)) :
    rateOr (given rates) rates.inputMicrodollarsPerMillionTokens numerator denominator =
      .ok (rateGiven given (numerator / denominator) rates) := by
  unfold rateOr
  unfold rateGiven at checked ⊢
  split
  · rename_i present
    rw [present,Option.getD_some]
  · rename_i absent
    rw [absent,Option.getD_none] at checked ⊢
    have safe := ((isAmount_int _).mp checked).2
    exact bind_ok.mpr ⟨_,(derivedRate_iff positive divides).mpr ⟨input,rfl,safe⟩,rfl⟩

theorem derived_iff {count part : Number} {countLabel rateLabel : String} {divisor : Nat} {cost : Int} (positive : 0 ≤ numerator)
    (divides : 0 < denominator) (parted : (numerator / denominator : Number) = part) (divides' : 0 < divisor)
    (input : IsAmount rates.inputMicrodollarsPerMillionTokens) :
    componentCost count countLabel (rateOr (given rates) rates.inputMicrodollarsPerMillionTokens numerator denominator) rateLabel
        divisor = .ok cost ↔
      (IsAmount count ∧ IsAmount (rateGiven given part rates)) ∧ cost = ⌈count * rateGiven given part rates / divisor⌉ := by
  subst parted
  rw [componentCost_iff divides']
  constructor
  · intro ⟨countable,rate,found,rateable,same⟩
    rw [← rateOr_ok positive divides found]
    exact ⟨⟨countable,rateable⟩,same⟩
  · intro ⟨⟨countable,rateable⟩,same⟩
    exact ⟨countable,_,rateOr_of_amount positive divides input rateable,rateable,same⟩

end

theorem given_iff {count rate : Number} {divisor : Nat} (divides : 0 < divisor) :
    componentCost count countLabel (.ok rate) rateLabel divisor = .ok cost ↔
      (IsAmount count ∧ IsAmount rate) ∧ cost = ⌈count * rate / divisor⌉ := by
  rw [componentCost_iff divides]
  constructor
  · intro ⟨countable,given,found,rateable,same⟩
    cases found
    exact ⟨⟨countable,rateable⟩,same⟩
  · intro ⟨⟨countable,rateable⟩,same⟩
    exact ⟨countable,rate,rfl,rateable,same⟩

theorem calculateUsageCost_iff {usage : UsageQuantity} {rates : ModelRates} : calculateUsageCost usage rates = .ok cost ↔
      (∀ component ∈ components, component.Chargeable usage rates) ∧ cost = roundedCost usage rates ∧
        roundedCost usage rates ≤ MAX_SAFE_INTEGER := by
  have tenth : ((1 : Int) / (10 : Nat) : Number) = 1 / 10 := by norm_num
  have quarters : ((5 : Int) / (4 : Nat) : Number) = 5 / 4 := by norm_num
  have twice : ((2 : Int) / (1 : Nat) : Number) = 2 := by norm_num
  simp only [components,List.forall_mem_cons,List.not_mem_nil,IsEmpty.forall_iff,implies_true,and_true,roundedCost,
    Sums.sum_cons,Sums.sum_nil,add_zero,Component.Chargeable,Component.exact,Component.product]
  constructor
  · intro ok
    obtain ⟨input,first,ok⟩ := bind_ok.mp ok
    obtain ⟨output,second,ok⟩ := bind_ok.mp ok
    obtain ⟨cacheRead,third,ok⟩ := bind_ok.mp ok
    obtain ⟨cacheCreation5m,fourth,ok⟩ := bind_ok.mp ok
    obtain ⟨cacheCreation1h,fifth,ok⟩ := bind_ok.mp ok
    obtain ⟨runtime,sixth,ok⟩ := bind_ok.mp ok
    obtain ⟨total,safe⟩ := toMicrodollars_iff.mp ok
    obtain ⟨inputChecked,rfl⟩ := (given_iff (by decide)).mp first
    obtain ⟨outputChecked,rfl⟩ := (given_iff (by decide)).mp second
    obtain ⟨readChecked,rfl⟩ := (derived_iff (by decide) (by decide) tenth (by decide) inputChecked.2).mp third
    obtain ⟨shortChecked,rfl⟩ := (derived_iff (by decide) (by decide) quarters (by decide) inputChecked.2).mp fourth
    obtain ⟨longChecked,rfl⟩ := (derived_iff (by decide) (by decide) twice (by decide) inputChecked.2).mp fifth
    obtain ⟨runtimeChecked,rfl⟩ := (given_iff (by decide)).mp sixth
    simp only [add_assoc] at total safe
    exact ⟨⟨inputChecked,outputChecked,readChecked,shortChecked,longChecked,runtimeChecked⟩,total.symm,safe⟩
  · intro ⟨⟨inputChecked,outputChecked,readChecked,shortChecked,longChecked,runtimeChecked⟩,total,safe⟩
    refine bind_ok.mpr ⟨_,(given_iff (by decide)).mpr ⟨inputChecked,rfl⟩,bind_ok.mpr ⟨_,(given_iff (by decide)).mpr ⟨outputChecked,rfl⟩,
      bind_ok.mpr ⟨_,(derived_iff (by decide) (by decide) tenth (by decide) inputChecked.2).mpr ⟨readChecked,rfl⟩,
      bind_ok.mpr ⟨_,(derived_iff (by decide) (by decide) quarters (by decide) inputChecked.2).mpr ⟨shortChecked,rfl⟩,
      bind_ok.mpr ⟨_,(derived_iff (by decide) (by decide) twice (by decide) inputChecked.2).mpr ⟨longChecked,rfl⟩,
      bind_ok.mpr ⟨_,(given_iff (by decide)).mpr ⟨runtimeChecked,rfl⟩,toMicrodollars_iff.mpr ?_⟩⟩⟩⟩⟩⟩
    simp only [add_assoc]
    exact ⟨total.symm,safe⟩

/-! ### Never too little -/

section
variable {usage more : UsageQuantity} {rates dearer : ModelRates}

theorem divisor_pos : ∀ component ∈ components, 0 < component.divisor := by
  simp [components]

theorem charged_eq (usage : UsageQuantity) (rates : ModelRates) :
    charged usage rates = Sums.nonzero components fun component => component.exact usage rates := by
  apply List.countP_congr
  intro component listed
  have divides := divisor_pos component listed
  simp [Component.exact,divides.ne']

structure CountsUpTo (usage more : UsageQuantity) : Prop where
  inputTokens : usage.inputTokens ≤ more.inputTokens
  outputTokens : usage.outputTokens ≤ more.outputTokens
  cacheReadInputTokens : usage.cacheReadInputTokens.getD 0 ≤ more.cacheReadInputTokens.getD 0
  cacheCreation5mInputTokens : usage.cacheCreation5mInputTokens.getD 0 ≤ more.cacheCreation5mInputTokens.getD 0
  cacheCreation1hInputTokens : usage.cacheCreation1hInputTokens.getD 0 ≤ more.cacheCreation1hInputTokens.getD 0
  runtimeMs : usage.runtimeMs ≤ more.runtimeMs

structure RatesUpTo (rates dearer : ModelRates) : Prop where
  input : rates.inputMicrodollarsPerMillionTokens ≤ dearer.inputMicrodollarsPerMillionTokens
  output : rates.outputMicrodollarsPerMillionTokens ≤ dearer.outputMicrodollarsPerMillionTokens
  cacheRead : Option.Rel (· ≤ ·) rates.cacheReadInputMicrodollarsPerMillionTokens
    dearer.cacheReadInputMicrodollarsPerMillionTokens
  cacheCreation5m : Option.Rel (· ≤ ·) rates.cacheCreation5mInputMicrodollarsPerMillionTokens
    dearer.cacheCreation5mInputMicrodollarsPerMillionTokens
  cacheCreation1h : Option.Rel (· ≤ ·) rates.cacheCreation1hInputMicrodollarsPerMillionTokens
    dearer.cacheCreation1hInputMicrodollarsPerMillionTokens
  runtime : rates.runtimeMicrodollarsPerMinute ≤ dearer.runtimeMicrodollarsPerMinute

theorem rateGiven_mono {given : ModelRates → Option Number} {part : Number} (positive : 0 ≤ part)
    (input : rates.inputMicrodollarsPerMillionTokens ≤ dearer.inputMicrodollarsPerMillionTokens)
    (upTo : Option.Rel (· ≤ ·) (given rates) (given dearer)) : rateGiven given part rates ≤ rateGiven given part dearer := by
  unfold rateGiven
  generalize given rates = cheap at upTo ⊢
  generalize given dearer = dear at upTo ⊢
  cases upTo with
  | some upTo => exact upTo
  | none =>
    have scaled := Int.ceil_le_ceil (mul_le_mul_of_nonneg_right input positive)
    simpa using scaled

theorem counts_mono (upTo : CountsUpTo usage more) : ∀ component ∈ components, component.count usage ≤ component.count more := by
  simp only [components,List.forall_mem_cons,List.not_mem_nil,IsEmpty.forall_iff,implies_true,and_true]
  exact ⟨upTo.inputTokens,upTo.outputTokens,upTo.cacheReadInputTokens,upTo.cacheCreation5mInputTokens,
    upTo.cacheCreation1hInputTokens,upTo.runtimeMs⟩

theorem rates_mono (upTo : RatesUpTo rates dearer) : ∀ component ∈ components, component.rate rates ≤ component.rate dearer := by
  simp only [components,List.forall_mem_cons,List.not_mem_nil,IsEmpty.forall_iff,implies_true,and_true]
  exact ⟨upTo.input,upTo.output,rateGiven_mono (by norm_num) upTo.input upTo.cacheRead,
    rateGiven_mono (by norm_num) upTo.input upTo.cacheCreation5m,rateGiven_mono (by norm_num) upTo.input upTo.cacheCreation1h,
    upTo.runtime⟩

theorem roundedCost_mono (chargeable : ∀ component ∈ components, component.Chargeable usage rates)
    (counts : CountsUpTo usage more) (upTo : RatesUpTo rates dearer) : roundedCost usage rates ≤ roundedCost more dearer := by
  apply Sums.sum_ceil_mono
  intro component listed
  obtain ⟨countable,rateable⟩ := chargeable component listed
  have counted := counts_mono counts component listed
  have rated := rates_mono upTo component listed
  have products := mul_le_mul counted rated rateable.positive (countable.positive.trans counted)
  exact div_le_div_of_nonneg_right products (Nat.cast_nonneg _)

/-! ### Charged together -/

def addCounts : Option Number → Option Number → Option Number
  | none,none => none
  | first,second => some (first.getD 0 + second.getD 0)

theorem addCounts_getD (first second : Option Number) : (addCounts first second).getD 0 = first.getD 0 + second.getD 0 := by
  cases first with
  | some first => rfl
  | none =>
    cases second with
    | some second => rfl
    | none => exact (add_zero 0).symm

def combined (first second : UsageQuantity) : UsageQuantity where
  inputTokens := first.inputTokens + second.inputTokens
  outputTokens := first.outputTokens + second.outputTokens
  cacheReadInputTokens := addCounts first.cacheReadInputTokens second.cacheReadInputTokens
  cacheCreation5mInputTokens := addCounts first.cacheCreation5mInputTokens second.cacheCreation5mInputTokens
  cacheCreation1hInputTokens := addCounts first.cacheCreation1hInputTokens second.cacheCreation1hInputTokens
  runtimeMs := first.runtimeMs + second.runtimeMs

theorem count_combined (first second : UsageQuantity) :
    ∀ component ∈ components, component.count (combined first second) = component.count first + component.count second := by
  simp [components,combined,addCounts_getD]

theorem roundedCost_combined (first second : UsageQuantity) (rates : ModelRates) :
    roundedCost (combined first second) rates ≤ roundedCost first rates + roundedCost second rates ∧
      roundedCost first rates + roundedCost second rates ≤ roundedCost (combined first second) rates + 6 := by
  have apart : roundedCost (combined first second) rates =
      Sums.sum components fun component => ⌈component.exact first rates + component.exact second rates⌉ := by
    apply Sums.sum_congr
    intro component listed
    simp only [Component.exact,Component.product]
    rw [count_combined first second component listed,add_mul,add_div]
  rw [apart]
  exact Sums.sum_ceil_add components (fun component => component.exact first rates) fun component => component.exact second rates

/-! ### What cannot be charged -/

def amounts (usage : UsageQuantity) (rates : ModelRates) : List Number :=
  [usage.inputTokens,usage.outputTokens,usage.runtimeMs,rates.inputMicrodollarsPerMillionTokens,
   rates.outputMicrodollarsPerMillionTokens,rates.runtimeMicrodollarsPerMinute] ++
  usage.cacheReadInputTokens.toList ++ usage.cacheCreation5mInputTokens.toList ++ usage.cacheCreation1hInputTokens.toList ++
  rates.cacheReadInputMicrodollarsPerMillionTokens.toList ++ rates.cacheCreation5mInputMicrodollarsPerMillionTokens.toList ++
  rates.cacheCreation1hInputMicrodollarsPerMillionTokens.toList

def derivedRates (rates : ModelRates) : List Int :=
  [(rates.cacheReadInputMicrodollarsPerMillionTokens,(1 / 10 : Number)),
   (rates.cacheCreation5mInputMicrodollarsPerMillionTokens,5 / 4),
   (rates.cacheCreation1hInputMicrodollarsPerMillionTokens,2)].filterMap fun (given,part) =>
    if given.isNone then some ⌈rates.inputMicrodollarsPerMillionTokens * part⌉ else none

theorem isAmount_zero : IsAmount 0 := (isAmount_int 0).mpr (by decide)

theorem isAmount_getD (count : Option Number) : IsAmount (count.getD 0) ↔ ∀ value ∈ count.toList, IsAmount value := by
  cases count with
  | none => simp [isAmount_zero]
  | some count => simp

theorem isAmount_rateGiven {given : ModelRates → Option Number} {part : Number} (positive : 0 ≤ part)
    (input : IsAmount rates.inputMicrodollarsPerMillionTokens) :
    IsAmount (rateGiven given part rates) ↔ (∀ value ∈ (given rates).toList, IsAmount value) ∧
      ((given rates).isNone = true → ⌈rates.inputMicrodollarsPerMillionTokens * part⌉ ≤ MAX_SAFE_INTEGER) := by
  unfold rateGiven
  cases given rates with
  | some rate => simp
  | none =>
    have nonneg := Int.ceil_nonneg (mul_nonneg input.positive positive)
    simp [isAmount_int,nonneg]

theorem chargeable_iff : (∀ component ∈ components, component.Chargeable usage rates) ↔
    (∀ value ∈ amounts usage rates, IsAmount value) ∧ ∀ rate ∈ derivedRates rates, rate ≤ MAX_SAFE_INTEGER := by
  by_cases input : IsAmount rates.inputMicrodollarsPerMillionTokens
  · have tenth := @isAmount_rateGiven rates ModelRates.cacheReadInputMicrodollarsPerMillionTokens (1 / 10) (by norm_num) input
    have quarters := @isAmount_rateGiven rates ModelRates.cacheCreation5mInputMicrodollarsPerMillionTokens (5 / 4) (by norm_num) input
    have twice := @isAmount_rateGiven rates ModelRates.cacheCreation1hInputMicrodollarsPerMillionTokens 2 (by norm_num) input
    simp only [components,amounts,derivedRates,Component.Chargeable,List.forall_mem_cons,List.forall_mem_append,isAmount_getD,tenth,
      quarters,twice,input,List.forall_mem_filterMap]
    simp
    tauto
  · have refused : ¬ ∀ value ∈ amounts usage rates, IsAmount value := fun checked => input (checked _ (by simp [amounts]))
    have refused' : ¬ ∀ component ∈ components, component.Chargeable usage rates :=
      fun checked => input (checked _ List.mem_cons_self).2
    exact iff_of_false refused' fun both => refused both.1

theorem calculateUsageCost_error : (∃ error, calculateUsageCost usage rates = .error error) ↔
    (∃ value ∈ amounts usage rates, ¬ IsAmount value) ∨ (∃ rate ∈ derivedRates rates, MAX_SAFE_INTEGER < rate) ∨
      MAX_SAFE_INTEGER < roundedCost usage rates := by
  have throws : (∃ error, calculateUsageCost usage rates = .error error) ↔ ¬ ∃ cost, calculateUsageCost usage rates = .ok cost := by
    cases calculateUsageCost usage rates with
    | ok cost => simp
    | error error => simp
  have charges : (∃ cost, calculateUsageCost usage rates = .ok cost) ↔
      (∀ component ∈ components, component.Chargeable usage rates) ∧ roundedCost usage rates ≤ MAX_SAFE_INTEGER := by
    simp only [calculateUsageCost_iff]
    constructor
    · intro ⟨_,chargeable,_,safe⟩
      exact ⟨chargeable,safe⟩
    · intro ⟨chargeable,safe⟩
      exact ⟨_,chargeable,rfl,safe⟩
  rw [throws,charges,chargeable_iff]
  grind

end

/-- What is charged is at least the exact cost, by less than one for each component that costs anything; it grows with every
count and rate; charging apart is never cheaper, by six at most; and the charge fails on what is no amount only. -/
theorem usage_cost_covers : (∀ usage rates cost, calculateUsageCost usage rates = .ok cost → exactCost usage rates ≤ cost ∧
      ((cost : Number) < exactCost usage rates + charged usage rates ∨
        charged usage rates = 0 ∧ (cost : Number) = exactCost usage rates)) ∧
    (∀ usage more rates dearer cost costMore, CountsUpTo usage more → RatesUpTo rates dearer →
      calculateUsageCost usage rates = .ok cost → calculateUsageCost more dearer = .ok costMore → cost ≤ costMore) ∧
    (∀ first second rates cost costSecond costBoth, calculateUsageCost first rates = .ok cost →
      calculateUsageCost second rates = .ok costSecond → calculateUsageCost (combined first second) rates = .ok costBoth →
      costBoth ≤ cost + costSecond ∧ cost + costSecond ≤ costBoth + 6) ∧
    ∀ usage rates, (∃ error, calculateUsageCost usage rates = .error error) ↔
      (∃ value ∈ amounts usage rates, ¬ IsAmount value) ∨ (∃ rate ∈ derivedRates rates, MAX_SAFE_INTEGER < rate) ∨
        MAX_SAFE_INTEGER < roundedCost usage rates := by
  refine ⟨?_,?_,?_,fun _ _ => calculateUsageCost_error⟩
  · intro usage rates cost ok
    obtain ⟨_,rfl,_⟩ := calculateUsageCost_iff.mp ok
    rw [charged_eq]
    exact ⟨Sums.le_sum_ceil components _,Sums.sum_ceil_lt components _⟩
  · intro usage more rates dearer cost costMore counts upTo ok okMore
    obtain ⟨chargeable,rfl,_⟩ := calculateUsageCost_iff.mp ok
    obtain ⟨_,rfl,_⟩ := calculateUsageCost_iff.mp okMore
    exact roundedCost_mono chargeable counts upTo
  · intro first second rates cost costSecond costBoth ok okSecond okBoth
    obtain ⟨_,rfl,_⟩ := calculateUsageCost_iff.mp ok
    obtain ⟨_,rfl,_⟩ := calculateUsageCost_iff.mp okSecond
    obtain ⟨_,rfl,_⟩ := calculateUsageCost_iff.mp okBoth
    exact roundedCost_combined first second rates

/-- A usage of nothing costs nothing, which is not less than nothing. -/
theorem usage_cost_of_nothing : ¬ ∀ usage rates cost, calculateUsageCost usage rates = .ok cost →
    (cost : Number) < exactCost usage rates + charged usage rates := by
  intro below
  have nothing := below {inputTokens := 0,outputTokens := 0,runtimeMs := 0}
    {inputMicrodollarsPerMillionTokens := 3,outputMicrodollarsPerMillionTokens := 15,runtimeMicrodollarsPerMinute := 1} 0
    (by decide +kernel)
  exact absurd nothing (by decide +kernel)

end AgentOS.Budget
