/-! The style of the page of features. -/

namespace PageAssets.Style.Builtin

def featuresLines : List String := [
  "        ",
  "        .features-list \x7b",
  "            display: grid;",
  "            gap: 20px;",
  "        \x7d",
  "        ",
  "        .feature-card \x7b",
  "            border: 1px solid #e0e0e0;",
  "            border-radius: 8px;",
  "            padding: 20px;",
  "            background: #fafafa;",
  "            transition: all 0.3s;",
  "        \x7d",
  "        ",
  "        .feature-card:hover \x7b",
  "            box-shadow: 0 2px 8px rgba(0,0,0,0.1);",
  "        \x7d",
  "        ",
  "        .feature-header \x7b",
  "            display: flex;",
  "            justify-content: space-between;",
  "            align-items: center;",
  "            margin-bottom: 10px;",
  "        \x7d",
  "        ",
  "        .feature-name \x7b",
  "            font-size: 18px;",
  "            font-weight: 600;",
  "            color: #333;",
  "        \x7d",
  "        ",
  "        .feature-description \x7b",
  "            color: #666;",
  "            margin-bottom: 15px;",
  "            font-size: 14px;",
  "        \x7d",
  "        ",
  "        .switch \x7b",
  "            position: relative;",
  "            display: inline-block;",
  "            width: 60px;",
  "            height: 34px;",
  "        \x7d",
  "        ",
  "        .switch input \x7b",
  "            opacity: 0;",
  "            width: 0;",
  "            height: 0;",
  "        \x7d",
  "        ",
  "        .slider \x7b",
  "            position: absolute;",
  "            cursor: pointer;",
  "            top: 0;",
  "            left: 0;",
  "            right: 0;",
  "            bottom: 0;",
  "            background-color: #ccc;",
  "            transition: .4s;",
  "            border-radius: 34px;",
  "        \x7d",
  "        ",
  "        .slider::before \x7b",
  "            position: absolute;",
  "            content: \"\";",
  "            height: 26px;",
  "            width: 26px;",
  "            left: 4px;",
  "            bottom: 4px;",
  "            background-color: white;",
  "            transition: all 0.4s ease;",
  "            border-radius: 13px;",
  "            display: block;",
  "            box-sizing: border-box;",
  "            border: none;",
  "            outline: none;",
  "            margin: 0;",
  "            padding: 0;",
  "            -webkit-appearance: none;",
  "            appearance: none;",
  "        \x7d",
  "        ",
  "        input:checked + .slider \x7b",
  "            background-color: #4CAF50;",
  "        \x7d",
  "        ",
  "        input:checked + .slider::before \x7b",
  "            transform: translateX(26px);",
  "        \x7d",
  "        ",
  "        .loading \x7b",
  "            text-align: center;",
  "            padding: 40px;",
  "            color: #666;",
  "        \x7d"]

def features : String := "\n".intercalate featuresLines

end PageAssets.Style.Builtin
