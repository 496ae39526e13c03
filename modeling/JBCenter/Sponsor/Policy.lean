import Mathlib.Data.List.Basic

/-! The sponsorship policy: which chains are sponsored, and what one committed call reserves. -/
namespace JBCenter.Sponsor

def sponsoredMainnets : List Nat := [10, 8453, 42161]
def sponsoredTestnets : List Nat := [11155111, 11155420, 84532, 421614]
def creationFeeCeiling : Nat := 100000000000000

structure SponsorPolicy where
  paused : Bool
  perRequesterPerDay : Nat
  dailyBudgetWei : Nat
  /-- The slice of the daily budget the co-hosted MCP may spend, checked before the shared one. -/
  mcpDailyBudgetWei : Nat
  maximumGas : Nat
  maximumFeePerGas : Nat

inductive Family where
  | mainnet
  | testnet

def sponsorFamily (chainIds : List Nat) : Option Family :=
  if !chainIds.isEmpty && chainIds.all sponsoredMainnets.contains then some .mainnet
  else if !chainIds.isEmpty && chainIds.all sponsoredTestnets.contains then some .testnet
  else none

/-- The chains Center sponsors, in the order they were given. -/
def sponsoredChains (chainIds : List Nat) : List Nat :=
  chainIds.filter (fun chainId => sponsoredMainnets.contains chainId || sponsoredTestnets.contains chainId)

def isSponsoredChain (chainId : Nat) : Bool := (sponsoredChains [chainId]).length == 1

/-- One committed call: the gas the sponsor will sign for plus the creation fee ceiling. -/
def reservationWei (policy : SponsorPolicy) (callCount : Nat) : Nat :=
  callCount * (policy.maximumGas * policy.maximumFeePerGas + creationFeeCeiling)

end JBCenter.Sponsor
