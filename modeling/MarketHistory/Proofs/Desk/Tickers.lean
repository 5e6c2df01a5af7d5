import MarketHistory.Proofs.Desk.Foresight
import MarketHistory.Proofs.Desk.Registry

/-!
# Securities by their tickers

Several securities may have one ticker, such as a contract and the chain it belongs to. A ticker, given
in any case, stands for the least security that has it and is not canonical, and for the least one if
all of them are canonical (`Desk.symbolFor_of_log`).
-/

namespace MarketHistory

namespace Symbol

/-- A symbol is the least one, in the order of symbols, that has a property. -/
structure Least (p : Symbol → Prop) (symbol : Symbol) : Prop where
  holds : p symbol
  le    : ∀ other, p other → (compare symbol other).isLE = true

lemma least_congr {p q : Symbol → Prop} (h : ∀ symbol, p symbol ↔ q symbol) {symbol : Symbol} :
    Least p symbol ↔ Least q symbol := by
  have hpq : p = q := by
    funext symbol
    exact propext (h symbol)
  rw [hpq]

/-- The first of an ordered list that passes a test is the least that does. -/
lemma find?_eq_some_iff_least {symbols : List Symbol}
    (h : symbols.Pairwise fun a b => compare a b = .lt) (test : Symbol → Bool) {symbol : Symbol} :
    symbols.find? test = some symbol ↔ Least (fun s => s ∈ symbols ∧ test s = true) symbol := by
  induction symbols with
  | nil =>
    constructor
    · intro hfound
      cases hfound
    · rintro ⟨⟨hmem, -⟩, -⟩
      cases hmem
  | cons first symbols ih =>
    obtain ⟨hfirst, hrest⟩ := List.pairwise_cons.mp h
    cases htest : test first with
    | true =>
      rw [List.find?_cons_of_pos htest, Option.some_inj]
      constructor
      · rintro rfl
        refine ⟨⟨List.mem_cons_self, htest⟩, ?_⟩
        rintro other ⟨hother, -⟩
        rcases List.mem_cons.mp hother with rfl | hother
        · simp [Std.ReflOrd.compare_self]
        · simp [hfirst other hother]
      · rintro ⟨⟨hmem, -⟩, hle⟩
        rcases List.mem_cons.mp hmem with rfl | hmem
        · rfl
        · -- a later one is greater than the first
          have hgt : compare symbol first = .gt :=
            Std.OrientedCmp.gt_iff_lt.mpr (hfirst symbol hmem)
          have hself := hle first ⟨List.mem_cons_self, htest⟩
          simp [hgt] at hself
    | false =>
      have hother : ∀ s, ¬(s = first ∧ test s = true) := by
        rintro s ⟨rfl, hs⟩
        simp [htest] at hs
      rw [List.find?_cons_of_neg (by simp [htest]), ih hrest]
      apply least_congr
      intro s
      simp [or_and_right, hother]

end Symbol

/-! ### The choice among the known securities -/

namespace Securities

variable (s : Securities) (ticker : String)

/-- A known security has a ticker, which is given in any case. -/
def Named (symbol : Symbol) : Prop := symbol ∈ s.symbols ∧ symbol.ticker = Text.upper ticker

/-- Of the securities with a ticker the first that is not canonical is found, else the first. -/
lemma find?_eq_or : s.find? ticker =
    (s.symbols.find? fun x => decide (x.ticker = Text.upper ticker) && !x.canonical).or
      (s.symbols.find? fun x => x.ticker = Text.upper ticker) := by
  have hor : s.find? ticker =
      ((s.symbols.filter (·.ticker == Text.upper ticker)).find? (!·.canonical)).or
        (s.symbols.filter (·.ticker == Text.upper ticker)).head? := by
    rw [find?]
    -- a first one that is not canonical is the first of those too
    cases s.symbols.filter (·.ticker == Text.upper ticker) with
    | nil => rfl
    | cons first others => cases hcanonical : first.canonical <;> simp [hcanonical]
  rw [hor, List.find?_filter, List.head?_filter]
  congr 2
  funext x
  simp

lemma find?_eq_some_iff (symbol : Symbol) : s.find? ticker = some symbol ↔
    Symbol.Least (fun x => s.Named ticker x ∧ x.canonical = false) symbol ∨
      (∀ x, s.Named ticker x → x.canonical = true) ∧ Symbol.Least (s.Named ticker) symbol := by
  have hordered : s.symbols.Pairwise fun a b => compare a b = .lt := s.registered.pairwise_keys
  have hnone : (s.symbols.find? fun x => decide (x.ticker = Text.upper ticker) && !x.canonical) =
      none ↔ ∀ x, s.Named ticker x → x.canonical = true := by
    simp [Named]
  rw [find?_eq_or, Option.or_eq_some_iff, hnone, Symbol.find?_eq_some_iff_least hordered,
    Symbol.find?_eq_some_iff_least hordered]
  simp only [Bool.and_eq_true, decide_eq_true_eq, Bool.not_eq_true', ← and_assoc]
  rfl

lemma find?_eq_none_iff : s.find? ticker = none ↔ ∀ x, ¬s.Named ticker x := by
  rw [find?_eq_or, Option.or_eq_none_iff]
  simp only [Named, List.find?_eq_none]
  grind

end Securities

namespace Desk

variable (d : Desk) (ticker : String)

lemma symbolFor_eq_ok_iff (symbol : Symbol) :
    d.symbolFor ticker = .ok symbol ↔ d.securities.find? ticker = some symbol := by
  rw [symbolFor]
  cases d.securities.find? ticker <;> simp

lemma symbolFor_eq_error_iff (e : QueryError) : d.symbolFor ticker = .error e ↔
    e = .invalidRequest (.unknownTicker ticker) ∧ d.securities.find? ticker = none := by
  rw [symbolFor]
  cases d.securities.find? ticker <;> simp [eq_comm]

/-- The securities with a ticker are found among those of the log. -/
lemma named_afterAll (changes : List Change) (symbol : Symbol) :
    (d.blank.afterAll changes).securities.Named ticker symbol ↔
      Registered changes symbol ∧ symbol.ticker = Text.upper ticker := by
  rw [Securities.Named, securities_afterAll, Securities.mem_symbols_afterAll]

/-- A security that is added makes its ticker known. -/
lemma exists_symbolFor_of_registers (changes : List Change) {c : Change}
    {securityType : SecurityType} {market : String}
    (h : c.registers (.of ticker securityType market) = true) :
    ∃ symbol, ((d.blank.afterAll changes).after c).symbolFor ticker = .ok symbol := by
  rw [← afterAll_concat]
  have hnamed : (d.blank.afterAll (changes ++ [c])).securities.Named ticker
      (.of ticker securityType market) := by
    rw [named_afterAll, registered_concat_iff _ _ _ h]
    exact ⟨.inr rfl, rfl⟩
  have hsome : (d.blank.afterAll (changes ++ [c])).securities.find? ticker ≠ none := by
    intro hnone
    exact (Securities.find?_eq_none_iff _ _).mp hnone _ hnamed
  obtain ⟨symbol, hsymbol⟩ := Option.ne_none_iff_exists'.mp hsome
  exact ⟨symbol, (symbolFor_eq_ok_iff _ _ _).mpr hsymbol⟩

/-- A canonical security that is added takes no ticker from one that is not canonical. -/
lemma symbolFor_of_canonical (changes : List Change) {c : Change} {chain symbol : Symbol}
    (hadded : c.registers chain = true) (hchain : chain.canonical = true)
    (htradable : symbol.canonical = false)
    (h : (d.blank.afterAll changes).symbolFor ticker = .ok symbol) :
    ((d.blank.afterAll changes).after c).symbolFor ticker = .ok symbol := by
  rw [symbolFor_eq_ok_iff, Securities.find?_eq_some_iff] at h
  rw [← afterAll_concat, symbolFor_eq_ok_iff, Securities.find?_eq_some_iff]
  rcases h with hleast | ⟨hcanonical, hleast⟩
  · left
    apply (Symbol.least_congr ?_).mp hleast
    intro other
    rw [named_afterAll, named_afterAll, registered_concat_iff _ _ _ hadded]
    constructor
    · rintro ⟨⟨hother, hticker⟩, hnot⟩
      exact ⟨⟨.inl hother, hticker⟩, hnot⟩
    · rintro ⟨⟨hother | rfl, hticker⟩, hnot⟩
      · exact ⟨⟨hother, hticker⟩, hnot⟩
      · simp [hchain] at hnot
  · -- a security that is found is one of those with the ticker
    have hsymbol := hcanonical symbol hleast.holds
    simp [htradable] at hsymbol

/-- Whatever was added and removed in whatever order, a ticker, given in any case, stands for the
least known security that has it and is not canonical, or, if all that have it are canonical, for the
least of them; the query fails exactly if no known security has it, and names the ticker. So the
ticker with which a symbol is made is known once the security is added, and a canonical security that
is added takes no ticker from another. -/
theorem symbolFor_of_log (changes : List Change) :
    let desk := d.blank.afterAll changes
    let named (symbol : Symbol) := Registered changes symbol ∧ symbol.ticker = Text.upper ticker
    (∀ symbol, desk.symbolFor ticker = .ok symbol ↔
      Symbol.Least (fun s => named s ∧ s.canonical = false) symbol ∨
        (∀ s, named s → s.canonical = true) ∧ Symbol.Least named symbol) ∧
    (∀ e, desk.symbolFor ticker = .error e ↔
      e = .invalidRequest (.unknownTicker ticker) ∧ ∀ symbol, ¬named symbol) ∧
    (∀ c securityType market, c.registers (.of ticker securityType market) = true →
      ∃ symbol, (desk.after c).symbolFor ticker = .ok symbol) ∧
    ∀ c chain symbol, c.registers chain = true → chain.canonical = true →
      symbol.canonical = false → desk.symbolFor ticker = .ok symbol →
        (desk.after c).symbolFor ticker = .ok symbol := by
  intro desk named
  have hnamed : desk.securities.Named ticker = named := by
    funext symbol
    exact propext (d.named_afterAll ticker changes symbol)
  refine ⟨?_, ?_, ?_, ?_⟩
  · intro symbol
    rw [symbolFor_eq_ok_iff, Securities.find?_eq_some_iff, hnamed]
  · intro e
    rw [symbolFor_eq_error_iff, Securities.find?_eq_none_iff, hnamed]
  · intro c securityType market hregisters
    exact d.exists_symbolFor_of_registers ticker changes hregisters
  · intro c chain symbol hadded hchain htradable hfound
    exact d.symbolFor_of_canonical ticker changes hadded hchain htradable hfound

/-- The ticker of a future still stands for it when the chain of its contracts is added, although the
market of the chain comes first. -/
theorem symbolFor_of_log_of_chain :
    let contract : Symbol := .future "ES" "cme"
    let chain : Symbol := .continuousFuture "ES" "cbot"
    let desk := lastMidnight.blank.afterAll [.addSecurity contract]
    desk.symbolFor "es" = .ok contract ∧ compare chain contract = .lt ∧
      (desk.after (.addSecurity chain)).symbolFor "es" = .ok contract := by
  intro contract chain desk
  have hfound : desk.symbolFor "es" = .ok contract := by
    rw [symbolFor_eq_ok_iff]
    decide +kernel
  obtain ⟨-, -, -, hchain⟩ := symbolFor_of_log lastMidnight "es" [.addSecurity contract]
  refine ⟨hfound, by decide +kernel, ?_⟩
  exact hchain (.addSecurity chain) chain contract (by decide +kernel) rfl rfl hfound

end Desk

end MarketHistory
