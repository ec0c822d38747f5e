import PageAssets.NameTable
import PageAssets.Style.Builtin.Shared
import PageAssets.Style.Builtin.RuleManagement
import PageAssets.Style.Builtin.ProxyManagement
import PageAssets.Style.Builtin.Features
import PageAssets.Style.Builtin.UserSettings

/-! The styles that come with the program. -/

namespace PageAssets.Style.Builtin

def pages : NameTable String :=
  .ofList [("rule_management", ruleManagement), ("proxy_management", proxyManagement),
    ("features", features), ("user_settings", userSettings)]

end PageAssets.Style.Builtin
