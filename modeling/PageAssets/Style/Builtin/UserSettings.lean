/-! The style of the page of user settings. -/

namespace PageAssets.Style.Builtin

def userSettingsLines : List String := [
  "        ",
  "        .header \x7b",
  "            display: flex;",
  "            justify-content: space-between;",
  "            align-items: center;",
  "            margin-bottom: 30px;",
  "            padding-bottom: 20px;",
  "            border-bottom: 1px solid #eee;",
  "        \x7d",
  "        ",
  "        .header h1 \x7b",
  "            color: #333;",
  "            font-size: 24px;",
  "            margin: 0;",
  "            font-weight: 600;",
  "        \x7d",
  "        ",
  "        .header .user-info \x7b",
  "            color: #666;",
  "            font-size: 14px;",
  "        \x7d",
  "        ",
  "        .section \x7b",
  "            margin-bottom: 40px;",
  "        \x7d",
  "        ",
  "        .section-title \x7b",
  "            font-size: 18px;",
  "            color: #333;",
  "            margin-bottom: 15px;",
  "            font-weight: 500;",
  "        \x7d",
  "        ",
  "        .section-description \x7b",
  "            color: #666;",
  "            font-size: 14px;",
  "            margin-bottom: 20px;",
  "            line-height: 1.6;",
  "        \x7d",
  "        ",
  "        .totp-status \x7b",
  "            background: #f9f9f9;",
  "            border: 1px solid #ddd;",
  "            border-radius: 5px;",
  "            padding: 20px;",
  "            margin-bottom: 20px;",
  "        \x7d",
  "        ",
  "        .totp-status.enabled \x7b",
  "            background: #e8f5e9;",
  "            border-color: #4caf50;",
  "        \x7d",
  "        ",
  "        .totp-status.disabled \x7b",
  "            background: #fff3e0;",
  "            border-color: #ff9800;",
  "        \x7d",
  "        ",
  "        .status-label \x7b",
  "            display: inline-block;",
  "            padding: 4px 12px;",
  "            border-radius: 4px;",
  "            font-size: 12px;",
  "            font-weight: 500;",
  "            margin-bottom: 10px;",
  "        \x7d",
  "        ",
  "        .status-label.enabled \x7b",
  "            background: #4caf50;",
  "            color: white;",
  "        \x7d",
  "        ",
  "        .status-label.disabled \x7b",
  "            background: #ff9800;",
  "            color: white;",
  "        \x7d",
  "        ",
  "        .button \x7b",
  "            padding: 10px 20px;",
  "            border: none;",
  "            border-radius: 5px;",
  "            font-size: 14px;",
  "            font-weight: 500;",
  "            cursor: pointer;",
  "            transition: opacity 0.3s;",
  "        \x7d",
  "        ",
  "        .button:hover \x7b",
  "            opacity: 0.9;",
  "        \x7d",
  "        ",
  "        .button:active \x7b",
  "            opacity: 0.8;",
  "        \x7d",
  "        ",
  "        .button:disabled \x7b",
  "            opacity: 0.6;",
  "            cursor: not-allowed;",
  "        \x7d",
  "        ",
  "        .button-primary \x7b",
  "            background: #0066cc;",
  "            color: white;",
  "        \x7d",
  "        ",
  "        .button-danger \x7b",
  "            background: #dc3545;",
  "            color: white;",
  "        \x7d",
  "        ",
  "        .button-secondary \x7b",
  "            background: #6c757d;",
  "            color: white;",
  "        \x7d",
  "        ",
  "        .qr-container \x7b",
  "            text-align: center;",
  "            margin: 20px 0;",
  "            padding: 20px;",
  "            background: #f9f9f9;",
  "            border-radius: 5px;",
  "        \x7d",
  "        ",
  "        .qr-container img \x7b",
  "            max-width: 200px;",
  "            margin-bottom: 10px;",
  "        \x7d",
  "        ",
  "        .qr-container .secret-key \x7b",
  "            font-family: monospace;",
  "            font-size: 14px;",
  "            color: #333;",
  "            word-break: break-all;",
  "            margin: 10px 0;",
  "            padding: 10px;",
  "            background: white;",
  "            border: 1px solid #ddd;",
  "            border-radius: 4px;",
  "        \x7d",
  "        ",
  "        .form-group input:focus \x7b",
  "            outline: none;",
  "            border-color: #0066cc;",
  "        \x7d",
  "        ",
  "        .error-message \x7b",
  "            background: #fee;",
  "            color: #c33;",
  "            padding: 10px;",
  "            border-radius: 5px;",
  "            margin-bottom: 20px;",
  "            font-size: 14px;",
  "            display: none;",
  "        \x7d",
  "        ",
  "        .error-message.show \x7b",
  "            display: block;",
  "        \x7d",
  "        ",
  "        .success-message \x7b",
  "            background: #efe;",
  "            color: #3c3;",
  "            padding: 10px;",
  "            border-radius: 5px;",
  "            margin-bottom: 20px;",
  "            font-size: 14px;",
  "            display: none;",
  "        \x7d",
  "        ",
  "        .success-message.show \x7b",
  "            display: block;",
  "        \x7d",
  "        ",
  "        .loading \x7b",
  "            display: inline-block;",
  "            width: 16px;",
  "            height: 16px;",
  "            border: 2px solid #fff;",
  "            border-top-color: transparent;",
  "            border-radius: 50%;",
  "            animation: spin 0.6s linear infinite;",
  "            margin-right: 8px;",
  "            vertical-align: middle;",
  "        \x7d",
  "        ",
  "        @keyframes spin \x7b",
  "            to \x7b transform: rotate(360deg); \x7d",
  "        \x7d"]

def userSettings : String := "\n".intercalate userSettingsLines

end PageAssets.Style.Builtin
