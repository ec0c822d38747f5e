/-! The style of the page that manages rules. -/

namespace PageAssets.Style.Builtin

def ruleManagementLines : List String := [
  "        ",
  "        /* 规则类型按钮组 */",
  "        .rule-type-buttons \x7b",
  "            display: flex;",
  "            gap: 10px;",
  "            flex-wrap: wrap;",
  "        \x7d",
  "        ",
  "        .rule-type-btn \x7b",
  "            padding: 12px 24px;",
  "            border: 2px solid #ddd;",
  "            border-radius: 6px;",
  "            background: white;",
  "            cursor: pointer;",
  "            font-size: 14px;",
  "            transition: all 0.3s;",
  "            min-width: 120px;",
  "        \x7d",
  "        ",
  "        .rule-type-btn:hover \x7b",
  "            border-color: #4CAF50;",
  "            background: #f0f9f0;",
  "        \x7d",
  "        ",
  "        .rule-type-btn.active \x7b",
  "            border-color: #4CAF50;",
  "            background: #4CAF50;",
  "            color: white;",
  "        \x7d",
  "        ",
  "        /* 地域选择区域 */",
  "        .geo-selector \x7b",
  "            display: none;",
  "            margin-top: 15px;",
  "            padding: 20px;",
  "            border: 1px solid #e0e0e0;",
  "            border-radius: 6px;",
  "            background: #f9f9f9;",
  "        \x7d",
  "        ",
  "        .geo-selector.active \x7b",
  "            display: block;",
  "        \x7d",
  "        ",
  "        .geo-tabs \x7b",
  "            display: flex;",
  "            gap: 10px;",
  "            margin-bottom: 20px;",
  "            border-bottom: 2px solid #e0e0e0;",
  "        \x7d",
  "        ",
  "        .geo-tab \x7b",
  "            padding: 10px 20px;",
  "            cursor: pointer;",
  "            border: none;",
  "            background: none;",
  "            font-size: 14px;",
  "            color: #666;",
  "            transition: all 0.3s;",
  "        \x7d",
  "        ",
  "        .geo-tab.active \x7b",
  "            color: #4CAF50;",
  "            border-bottom: 2px solid #4CAF50;",
  "            font-weight: bold;",
  "        \x7d",
  "        ",
  "        .geo-content \x7b",
  "            display: none;",
  "        \x7d",
  "        ",
  "        .geo-content.active \x7b",
  "            display: block;",
  "        \x7d",
  "        ",
  "        .continent-section,",
  "        .region-section \x7b",
  "            margin-bottom: 25px;",
  "        \x7d",
  "        ",
  "        .continent-title,",
  "        .region-title \x7b",
  "            font-size: 16px;",
  "            font-weight: bold;",
  "            color: #333;",
  "            margin-bottom: 12px;",
  "            padding-bottom: 8px;",
  "            border-bottom: 1px solid #e0e0e0;",
  "        \x7d",
  "        ",
  "        .country-buttons,",
  "        .province-buttons,",
  "        .city-buttons \x7b",
  "            display: flex;",
  "            flex-wrap: wrap;",
  "            gap: 8px;",
  "        \x7d",
  "        ",
  "        .country-btn,",
  "        .province-btn,",
  "        .city-btn \x7b",
  "            padding: 8px 16px;",
  "            border: 1px solid #ddd;",
  "            border-radius: 4px;",
  "            background: white;",
  "            cursor: pointer;",
  "            font-size: 13px;",
  "            transition: all 0.3s;",
  "        \x7d",
  "        ",
  "        .country-btn:hover,",
  "        .province-btn:hover,",
  "        .city-btn:hover \x7b",
  "            border-color: #4CAF50;",
  "            background: #f0f9f0;",
  "        \x7d",
  "        ",
  "        .country-btn.active,",
  "        .province-btn.active,",
  "        .city-btn.active \x7b",
  "            border-color: #4CAF50;",
  "            background: #4CAF50;",
  "            color: white;",
  "        \x7d",
  "        ",
  "        .selected-geo \x7b",
  "            margin-top: 15px;",
  "            padding: 15px;",
  "            background: #e8f5e9;",
  "            border-radius: 4px;",
  "            font-size: 14px;",
  "        \x7d",
  "        ",
  "        .selected-geo-item \x7b",
  "            display: inline-flex;",
  "            align-items: center;",
  "            margin: 5px;",
  "            padding: 6px 12px;",
  "            background: white;",
  "            border: 1px solid #4CAF50;",
  "            border-radius: 4px;",
  "            font-size: 13px;",
  "        \x7d",
  "        ",
  "        .selected-geo-item .remove-btn \x7b",
  "            margin-left: 8px;",
  "            padding: 2px 6px;",
  "            background: #f44336;",
  "            color: white;",
  "            border: none;",
  "            border-radius: 3px;",
  "            cursor: pointer;",
  "            font-size: 12px;",
  "            line-height: 1;",
  "        \x7d",
  "        ",
  "        .selected-geo-item .remove-btn:hover \x7b",
  "            background: #d32f2f;",
  "        \x7d",
  "        ",
  "        .selected-geo-empty \x7b",
  "            color: #999;",
  "            font-style: italic;",
  "        \x7d",
  "        ",
  "        /* IP黑白名单规则值输入框样式 */",
  "        .rule-value-input \x7b",
  "            width: 200% !important;",
  "            max-width: 2800px !important;",
  "            min-height: 100px !important;",
  "            padding: 15px !important;",
  "            font-size: 15px !important;",
  "            border: 1px solid #ddd;",
  "            border-radius: 4px;",
  "            resize: vertical;",
  "            font-family: inherit;",
  "            line-height: 1.5;",
  "        \x7d",
  "        ",
  "        #rule-value-group \x7b",
  "            width: 100%;",
  "            overflow-x: auto;",
  "        \x7d",
  "        ",
  "        #rule-value-group .rule-value-input \x7b",
  "            display: block;",
  "        \x7d",
  "        ",
  "        /* 创建成功提示框 */",
  "        #create-success-modal \x7b",
  "            display: none;",
  "            position: fixed;",
  "            top: 0;",
  "            left: 0;",
  "            width: 100%;",
  "            height: 100%;",
  "            background: rgba(0,0,0,0.5);",
  "            z-index: 10001;",
  "            overflow: auto;",
  "        \x7d",
  "        ",
  "        #create-success-modal.show \x7b",
  "            display: flex !important;",
  "            align-items: center !important;",
  "            justify-content: center !important;",
  "        \x7d",
  "        ",
  "        #create-success-modal > div \x7b",
  "            background: white;",
  "            padding: 30px;",
  "            border-radius: 8px;",
  "            box-shadow: 0 4px 20px rgba(0,0,0,0.3);",
  "            min-width: 400px;",
  "            max-width: 90%;",
  "            text-align: center;",
  "            margin: 20px;",
  "        \x7d"]

def ruleManagement : String := "\n".intercalate ruleManagementLines

end PageAssets.Style.Builtin
