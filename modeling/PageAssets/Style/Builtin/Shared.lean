/-! The style that all pages share. -/

namespace PageAssets.Style.Builtin

def sharedLines : List String := [
  "        * \x7b margin: 0; padding: 0; box-sizing: border-box; \x7d",
  "        ",
  "        /* 统一容器样式 */",
  "        .container \x7b",
  "            width: 100%;",
  "            max-width: 100%;",
  "            background: white;",
  "            border-radius: 8px;",
  "            box-shadow: 0 2px 8px rgba(0,0,0,0.1);",
  "            padding: 30px;",
  "        \x7d",
  "        ",
  "        /* 标题样式 */",
  "        h1 \x7b",
  "            color: #333;",
  "            font-size: 24px;",
  "            margin-bottom: 30px;",
  "            font-weight: 600;",
  "        \x7d",
  "        ",
  "        /* 标签页样式 */",
  "        .tabs \x7b",
  "            display: flex;",
  "            border-bottom: 2px solid #e0e0e0;",
  "            margin-bottom: 20px;",
  "        \x7d",
  "        ",
  "        .tab \x7b",
  "            padding: 12px 24px;",
  "            cursor: pointer;",
  "            border: none;",
  "            background: none;",
  "            font-size: 16px;",
  "            color: #666;",
  "            transition: all 0.3s;",
  "        \x7d",
  "        ",
  "        .tab.active \x7b",
  "            color: #4CAF50;",
  "            border-bottom: 2px solid #4CAF50;",
  "            font-weight: bold;",
  "        \x7d",
  "        ",
  "        .tab:hover \x7b",
  "            color: #4CAF50;",
  "        \x7d",
  "        ",
  "        .tab-content \x7b",
  "            display: none;",
  "        \x7d",
  "        ",
  "        .tab-content.active \x7b",
  "            display: block;",
  "        \x7d",
  "        ",
  "        /* 工具栏样式 */",
  "        .toolbar \x7b",
  "            display: flex;",
  "            justify-content: space-between;",
  "            align-items: center;",
  "            margin-bottom: 20px;",
  "            flex-wrap: wrap;",
  "            gap: 10px;",
  "        \x7d",
  "        ",
  "        .filters \x7b",
  "            display: flex;",
  "            gap: 10px;",
  "            flex-wrap: wrap;",
  "        \x7d",
  "        ",
  "        .filters select,",
  "        .filters input \x7b",
  "            padding: 8px 12px;",
  "            border: 1px solid #ddd;",
  "            border-radius: 4px;",
  "            font-size: 14px;",
  "        \x7d",
  "        ",
  "        /* 按钮样式 */",
  "        .btn \x7b",
  "            padding: 8px 16px;",
  "            border: none;",
  "            border-radius: 4px;",
  "            cursor: pointer;",
  "            font-size: 14px;",
  "            transition: all 0.3s;",
  "        \x7d",
  "        ",
  "        .btn-primary \x7b",
  "            background-color: #4CAF50;",
  "            color: white;",
  "        \x7d",
  "        ",
  "        .btn-primary:hover \x7b",
  "            background-color: #45a049;",
  "        \x7d",
  "        ",
  "        .btn-danger \x7b",
  "            background-color: #f44336;",
  "            color: white;",
  "        \x7d",
  "        ",
  "        .btn-danger:hover \x7b",
  "            background-color: #da190b;",
  "        \x7d",
  "        ",
  "        .btn-warning \x7b",
  "            background-color: #ff9800;",
  "            color: white;",
  "        \x7d",
  "        ",
  "        .btn-warning:hover \x7b",
  "            background-color: #e68900;",
  "        \x7d",
  "        ",
  "        .btn-info \x7b",
  "            background-color: #2196F3;",
  "            color: white;",
  "        \x7d",
  "        ",
  "        .btn-info:hover \x7b",
  "            background-color: #0b7dda;",
  "        \x7d",
  "        ",
  "        .btn-secondary \x7b",
  "            background-color: #757575;",
  "            color: white;",
  "        \x7d",
  "        ",
  "        .btn-secondary:hover \x7b",
  "            background-color: #616161;",
  "        \x7d",
  "        ",
  "        /* 表格样式 */",
  "        table \x7b",
  "            width: 100%;",
  "            border-collapse: collapse;",
  "            margin-top: 20px;",
  "        \x7d",
  "        ",
  "        th, td \x7b",
  "            padding: 12px;",
  "            text-align: left;",
  "            border-bottom: 1px solid #e0e0e0;",
  "        \x7d",
  "        ",
  "        th \x7b",
  "            background-color: #f5f5f5;",
  "            font-weight: 600;",
  "            color: #333;",
  "        \x7d",
  "        ",
  "        tr:hover \x7b",
  "            background-color: #f9f9f9;",
  "        \x7d",
  "        ",
  "        /* 状态徽章 */",
  "        .status-badge \x7b",
  "            padding: 4px 8px;",
  "            border-radius: 4px;",
  "            font-size: 12px;",
  "            font-weight: bold;",
  "        \x7d",
  "        ",
  "        .status-enabled \x7b",
  "            background-color: #4CAF50;",
  "            color: white;",
  "        \x7d",
  "        ",
  "        .status-disabled \x7b",
  "            background-color: #f44336;",
  "            color: white;",
  "        \x7d",
  "        ",
  "        /* 模态框样式 */",
  "        .content-area \x7b",
  "            position: relative;",
  "        \x7d",
  "        ",
  "        .modal \x7b",
  "            display: none;",
  "            position: absolute;",
  "            z-index: 1000;",
  "            left: 0;",
  "            top: 0;",
  "            width: 100% !important;",
  "            height: 100% !important;",
  "            overflow: auto;",
  "            background-color: rgba(0,0,0,0.5);",
  "        \x7d",
  "        ",
  "        .modal[style*=\"display: block\"],",
  "        .modal[style*=\"display:flex\"] \x7b",
  "            display: flex !important;",
  "            align-items: center;",
  "            justify-content: center;",
  "        \x7d",
  "        ",
  "        .modal-content \x7b",
  "            background-color: white;",
  "            padding: 30px;",
  "            border-radius: 8px;",
  "            width: 90%;",
  "            max-width: 800px;",
  "            max-height: 90vh;",
  "            overflow-y: auto;",
  "            position: relative;",
  "        \x7d",
  "        ",
  "        .modal-header \x7b",
  "            display: flex;",
  "            justify-content: space-between;",
  "            align-items: center;",
  "            margin-bottom: 20px;",
  "        \x7d",
  "        ",
  "        .close \x7b",
  "            color: #aaa;",
  "            font-size: 28px;",
  "            font-weight: bold;",
  "            cursor: pointer;",
  "        \x7d",
  "        ",
  "        .close:hover \x7b",
  "            color: #000;",
  "        \x7d",
  "        ",
  "        /* 表单样式 */",
  "        .form-group \x7b",
  "            margin-bottom: 20px;",
  "        \x7d",
  "        ",
  "        .form-group label \x7b",
  "            display: block;",
  "            margin-bottom: 5px;",
  "            color: #333;",
  "            font-weight: 500;",
  "        \x7d",
  "        ",
  "        .form-group input,",
  "        .form-group select,",
  "        .form-group textarea \x7b",
  "            width: 100%;",
  "            padding: 10px;",
  "            border: 1px solid #ddd;",
  "            border-radius: 4px;",
  "            font-size: 14px;",
  "        \x7d",
  "        ",
  "        .form-group textarea \x7b",
  "            resize: vertical;",
  "            min-height: 80px;",
  "        \x7d",
  "        ",
  "        .form-row \x7b",
  "            display: flex;",
  "            gap: 15px;",
  "        \x7d",
  "        ",
  "        .form-row .form-group \x7b",
  "            flex: 1;",
  "        \x7d",
  "        ",
  "        .form-actions \x7b",
  "            display: flex;",
  "            justify-content: flex-end;",
  "            gap: 10px;",
  "            margin-top: 20px;",
  "        \x7d",
  "        ",
  "        /* 分页样式 */",
  "        .pagination \x7b",
  "            display: flex;",
  "            justify-content: center;",
  "            align-items: center;",
  "            gap: 10px;",
  "            margin-top: 20px;",
  "        \x7d",
  "        ",
  "        .pagination button \x7b",
  "            padding: 8px 12px;",
  "            border: 1px solid #ddd;",
  "            background: white;",
  "            cursor: pointer;",
  "            border-radius: 4px;",
  "        \x7d",
  "        ",
  "        .pagination button:hover:not(:disabled) \x7b",
  "            background-color: #f5f5f5;",
  "        \x7d",
  "        ",
  "        .pagination button:disabled \x7b",
  "            opacity: 0.5;",
  "            cursor: not-allowed;",
  "        \x7d",
  "        ",
  "        /* 提示信息 */",
  "        .alert \x7b",
  "            padding: 12px;",
  "            margin-bottom: 20px;",
  "            border-radius: 4px;",
  "        \x7d",
  "        ",
  "        .alert-success \x7b",
  "            background-color: #d4edda;",
  "            color: #155724;",
  "            border: 1px solid #c3e6cb;",
  "        \x7d",
  "        ",
  "        .alert-error \x7b",
  "            background-color: #f8d7da;",
  "            color: #721c24;",
  "            border: 1px solid #f5c6cb;",
  "        \x7d",
  "        ",
  "        .action-buttons \x7b",
  "            display: flex;",
  "            gap: 5px;",
  "        \x7d",
  "        ",
  "        .action-buttons button \x7b",
  "            padding: 4px 8px;",
  "            font-size: 12px;",
  "        \x7d"]

def shared : String := "\n".intercalate sharedLines

end PageAssets.Style.Builtin
