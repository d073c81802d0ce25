import Runbook.Text.Blank

/-! The service that stores query plans, as far as its addresses go. -/
namespace Runbook.PlanService

def defaultEndpoint : Text := "https://explain.dalibo.com"

/-- An endpoint is kept without the slashes at its end. -/
def endpoint (address : Text) : Text :=
  (address.reverse.dropWhile (· == '/')).reverse

/-- Where the service's answer points to. An address with its own scheme stands for itself;
anything else is below the endpoint, whether it begins with a slash or not. -/
def resolveLocation (address location : Text) : Text :=
  let location := Text.trim location
  if "http://".toList.isPrefixOf location || "https://".toList.isPrefixOf location then location
  else endpoint address ++ '/' :: (Text.after? "/" location).getD location

end Runbook.PlanService
