import Allowance.Failure
import Allowance.Text.Case

/-!
# Currencies

The supported currencies, each with its number of decimal digits.
-/

namespace Allowance

inductive Currency where
  | gbp
  | eur
  | usd
  | rub
  | chf
  | pln
  | jpy
  | krw
  | bhd
  | kwd
  | btc
  deriving Repr, DecidableEq

namespace Currency

def all : List Currency :=
  [gbp, eur, usd, rub, chf, pln, jpy, krw, bhd, kwd, btc]

def code : Currency → String
  | gbp => "GBP"
  | eur => "EUR"
  | usd => "USD"
  | rub => "RUB"
  | chf => "CHF"
  | pln => "PLN"
  | jpy => "JPY"
  | krw => "KRW"
  | bhd => "BHD"
  | kwd => "KWD"
  | btc => "BTC"

def precision : Currency → Nat
  | jpy | krw => 0
  | bhd | kwd => 3
  | btc => 8
  | _ => 2

/-- The sign in front of an amount; most currencies have none. -/
def symbol : Currency → String
  | gbp => "£"
  | eur => "€"
  | usd => "$"
  | jpy => "¥"
  | rub => "₽"
  | _ => ""

/-- The currency of a code in any case. -/
def ofCode (code : String) : Except Failure Currency :=
  match all.find? (·.code == Text.upper code) with
  | some currency => .ok currency
  | none => .error (.rejected (.unknownCurrency code))

end Currency

end Allowance
